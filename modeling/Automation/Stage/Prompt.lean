/-!
# Prompts

The instructions of the four stages and the messages they send. Where a message shows something, it
stands between two fixed pieces of text.
-/

namespace Automation.Prompt

/-- Lines as one text. -/
def asLines (lines : List String) : String :=
  String.intercalate "\n" lines

/-- How a task is taken apart. -/
def decomposition : String := asLines [
  "You are a process decomposition expert. Break automation tasks down into detailed micro-steps.",
  "",
  "For the task you are given:",
  "1. Identify the trigger (what starts the automation)",
  "2. List every data source that is needed",
  "3. Break the processing down into 5-15 micro-steps",
  "4. Identify all outputs and destinations",
  "5. Note any conditions, loops or branching logic",
  "6. Consider the error cases",
  "",
  "Reply with a single JSON object and nothing else:",
  "\x7b",
  "  \"trigger\": \x7b\"type\": \"schedule|webhook|event|manual\", "
    ++ "\"description\": \"what starts it\", \"frequency\": \"how often\"\x7d,",
  "  \"dataSources\": [\x7b\"name\": \"source name\", \"type\": \"type\", "
    ++ "\"purpose\": \"why it is needed\"\x7d],",
  "  \"processingSteps\": [\x7b\"step\": 1, \"action\": \"description\", "
    ++ "\"dependencies\": []\x7d],",
  "  \"outputs\": [\x7b\"name\": \"output name\", \"type\": \"type\", "
    ++ "\"format\": \"format\"\x7d],",
  "  \"specialLogic\": \x7b",
  "    \"conditions\": [\"IF/THEN statements\"],",
  "    \"loops\": [\"iteration needs\"],",
  "    \"errorHandling\": [\"error cases to handle\"]",
  "  \x7d",
  "\x7d"]

/-- How a decomposed task is mapped to types of nodes, up to their list. -/
def mappingBefore : String := asLines [
  "You are an n8n automation expert. Map process steps to specific n8n nodes.",
  "",
  "Available n8n nodes:"]

/-- How a decomposed task is mapped to types of nodes, after their list. -/
def mappingAfter : String := asLines [
  "",
  "For each step of the process:",
  "1. Select the BEST node type from the list above",
  "2. Specify the parameters it needs",
  "3. Identify the credentials it requires",
  "4. Note any data transformation",
  "5. Add validation or error handling nodes where needed",
  "",
  "Reply with a single JSON object and nothing else:",
  "\x7b",
  "  \"mappedSteps\": [",
  "    \x7b",
  "      \"step\": 1,",
  "      \"originalAction\": \"from the decomposition\",",
  "      \"nodeType\": \"n8n-nodes-base.xxx\",",
  "      \"nodeName\": \"descriptive name\",",
  "      \"parameters\": \x7b\x7d,",
  "      \"credentials\": [\"credential types needed\"],",
  "      \"dataTransformation\": \"any transformation needed\"",
  "    \x7d",
  "  ],",
  "  \"additionalNodes\": [",
  "    \x7b\"purpose\": \"error handling|validation|transformation\", "
    ++ "\"nodeType\": \"n8n-nodes-base.xxx\", \"insertAfter\": 1\x7d",
  "  ]",
  "\x7d"]

/-- How steps are designed. -/
def architecture : String := asLines [
  "You are a workflow architecture expert. Design robust, production-ready workflows.",
  "",
  "Rules:",
  "1. The first step is always the Trigger.",
  "2. Immediately after every step whose failure would be visible outside the workflow",
  "   (network calls, sending messages, writing records) add an \"Error Handler\" step.",
  "3. Mark \"parallelizable\": true on consecutive steps that do not depend on each other's data.",
  "4. Validate data before external API calls; branch on conditions where the data requires it.",
  "5. Only use nodeType values that appear in the technical "
    ++ "mapping or the standard n8n-nodes-base set.",
  "",
  "Reply with a single JSON object and nothing else:",
  "\x7b",
  "  \"steps\": [",
  "    \x7b",
  "      \"step\": 1,",
  "      \"type\": \"Trigger|Process|Action|Logic|Transform|Error Handler\",",
  "      \"description\": \"what this does\",",
  "      \"service\": \"service/tool name\",",
  "      \"nodeType\": \"n8n-nodes-base.xxx\",",
  "      \"rationale\": \"why it is needed\",",
  "      \"errorHandling\": \"how errors are handled\",",
  "      \"parallelizable\": false",
  "    \x7d",
  "  ]",
  "\x7d"]

/-- How steps are revised. -/
def optimization : String := asLines [
  "You are a workflow optimization expert. Optimize for:",
  "1. Performance (parallel execution where possible)",
  "2. Cost (fewer API calls, batched operations)",
  "3. Reliability (proper error handling)",
  "4. Maintainability (clear structure)",
  "",
  "You may mark independent steps as parallelizable, batch similar operations and remove",
  "redundant steps. You must keep the first Trigger step, and every \"Error Handler\" step must",
  "stay immediately after the step it guards.",
  "",
  "Reply with the optimized workflow in the same JSON format: \x7b\"steps\": [...]\x7d"]

end Automation.Prompt
