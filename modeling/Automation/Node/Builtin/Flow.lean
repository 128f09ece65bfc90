import Automation.Node.Definition

/-!
# Nodes that direct the flow

Branches, loops and pauses.
-/

namespace Automation.NodeDefinition.Builtin

/-- Goes one of two ways. -/
def condition : NodeDefinition where
  typeId := "n8n-nodes-base.if"
  displayName := "IF"
  description := "Split workflow based on conditions"
  categories := ["transform"]
  parameters := [
    .table "conditions" "Conditions to check",
    .choice "combineOperation" ["all", "any"] "all"]
  usageHints := ["conditional routing", "data filtering", "decision trees"]
  exampleParameters := some (Json.membersOf [
    ("conditions", .ofFields [("number", .array [.ofFields [("value1",
      "=\x7b\x7b $json.amount \x7d\x7d"), ("operation", "larger"), ("value2", .int 1000)]])])])

/-- Goes one of several ways. -/
def switch : NodeDefinition where
  typeId := "n8n-nodes-base.switch"
  displayName := "Switch"
  description := "Route items to different branches"
  categories := ["transform"]
  parameters := [
    .choice "mode" ["rules", "expression"] "rules",
    .table "rules" "Switch rules"]
  usageHints := ["multi-path routing", "categorization", "workflow branching"]

/-- Joins several ways. -/
def merge : NodeDefinition where
  typeId := "n8n-nodes-base.merge"
  displayName := "Merge"
  description := "Merge data from multiple sources"
  categories := ["transform"]
  version := 2
  parameters := [
    .choice "mode" ["combine", "append", "keepMatches"] "combine"]
  usageHints := ["data combination", "parallel processing", "data enrichment"]

/-- Takes items in batches. -/
def splitInBatches : NodeDefinition where
  typeId := "n8n-nodes-base.splitInBatches"
  displayName := "Split In Batches"
  description := "Process items in batches"
  categories := ["transform"]
  parameters := [
    .amount "batchSize" 10 "Number of items per batch",
    .table "options"]
  usageHints := ["batch processing", "rate limiting", "API pagination"]

/-- Does something for each item. -/
def loop : NodeDefinition where
  typeId := "n8n-nodes-base.loop"
  displayName := "Loop Over Items"
  description := "Execute operations for each item"
  categories := ["transform"]
  usageHints := ["iterating over arrays", "bulk operations", "data processing"]

/-- Waits. -/
def wait : NodeDefinition where
  typeId := "n8n-nodes-base.wait"
  displayName := "Wait"
  description := "Pause workflow execution"
  categories := ["transform"]
  parameters := [
    .choice "resume" ["timeInterval", "specificTime", "webhook"] "timeInterval",
    .amount "amount" 1 "Time to wait",
    .choice "unit" ["seconds", "minutes", "hours"] "minutes"]
  usageHints := ["rate limiting", "delays", "scheduling"]

end Automation.NodeDefinition.Builtin
