import Automation.Node.Definition

/-!
# Nodes that talk to services

Messages, texts, requests and customer records.
-/

namespace Automation.NodeDefinition.Builtin

/-- Messages in Slack. -/
def slack : NodeDefinition where
  typeId := "n8n-nodes-base.slack"
  displayName := "Slack"
  description := "Send messages and interact with Slack"
  categories := ["communication"]
  parameters := [
    .choice "resource" ["message", "channel", "user", "file"] "message",
    .choice "operation" ["post", "get", "update"] "post",
    .text "channel" "Channel to send message to",
    .text "text" "Message text"]
  credentialKinds := ["slackApi"]
  usageHints := ["team notifications", "alerts", "collaboration", "status updates"]
  exampleParameters := some (Json.membersOf [
    ("resource", "message"),
    ("operation", "post"),
    ("channel", "#general"),
    ("text", "=\x7b\x7b $json.message \x7d\x7d")])

/-- Mail through Gmail. -/
def gmail : NodeDefinition where
  typeId := "n8n-nodes-base.gmail"
  displayName := "Gmail"
  description := "Send and receive emails via Gmail"
  categories := ["communication"]
  parameters := [
    .choice "resource" ["message", "draft", "label"] "message",
    .choice "operation" ["send", "get", "getAll"] "send",
    .text "to" "Email recipient",
    .text "subject" "Email subject",
    .text "message" "Email body"]
  credentialKinds := ["gmailOAuth2"]
  usageHints := ["email notifications", "reports", "automated responses",
    "customer communication"]
  exampleParameters := some (Json.membersOf [
    ("resource", "message"),
    ("operation", "send"),
    ("to", "=\x7b\x7b $json.recipientEmail \x7d\x7d"),
    ("subject", "Weekly Report"),
    ("message", "=\x7b\x7b $json.reportContent \x7d\x7d")])

/-- Messages in Discord. -/
def discord : NodeDefinition where
  typeId := "n8n-nodes-base.discord"
  displayName := "Discord"
  description := "Send messages to Discord"
  categories := ["communication"]
  parameters := [
    .text "text" "Message to send",
    .text "username" "Bot username"]
  credentialKinds := ["discordWebhookApi"]
  usageHints := ["community notifications", "gaming alerts", "team updates"]
  exampleParameters := some (Json.membersOf [
    ("text", "=\x7b\x7b $json.notification \x7d\x7d"),
    ("username", "Automation Bot")])

/-- Texts by OpenAI models. -/
def openAi : NodeDefinition where
  typeId := "n8n-nodes-base.openAi"
  displayName := "OpenAI"
  description := "Use OpenAI GPT models for text generation and analysis"
  categories := ["ai", "transform"]
  parameters := [
    .choice "resource" ["text", "image", "audio"] "text",
    .choice "operation" ["complete", "message"] "complete",
    .choice "model" ["gpt-4", "gpt-3.5-turbo"] "gpt-4",
    .text "prompt" "The prompt for text generation"]
  credentialKinds := ["openAiApi"]
  usageHints := ["text summarization", "content generation", "data analysis", "classification"]
  exampleParameters := some (Json.membersOf [
    ("resource", "text"),
    ("operation", "message"),
    ("model", "gpt-4"),
    ("prompt", "=\x7b\x7b $json.inputText \x7d\x7d")])

/-- Requests to any address. -/
def httpRequest : NodeDefinition where
  typeId := "n8n-nodes-base.httpRequest"
  displayName := "HTTP Request"
  description := "Make HTTP requests to any API"
  categories := ["output"]
  version := 3
  parameters := [
    .choice "method" ["GET", "POST", "PUT", "DELETE"] "GET",
    { ParameterSpec.text "url" "The URL to make the request to" with required := true },
    .choice "authentication" ["none", "basicAuth", "headerAuth"] "none"]
  usageHints := ["API calls", "webhook triggers", "external integrations"]
  exampleParameters := some (Json.membersOf [
    ("method", "POST"),
    ("url", "https://api.example.com/data"),
    ("authentication", "headerAuth")])

/-- Records of Salesforce. -/
def salesforce : NodeDefinition where
  typeId := "n8n-nodes-base.salesforce"
  displayName := "Salesforce"
  description := "Interact with Salesforce CRM"
  categories := ["transform"]
  parameters := [
    .choice "resource" ["lead", "contact", "opportunity", "account"] "lead",
    .choice "operation" ["create", "get", "update"] "create"]
  credentialKinds := ["salesforceOAuth2Api"]
  usageHints := ["CRM automation", "lead management", "sales tracking"]

/-- Records of HubSpot. -/
def hubspot : NodeDefinition where
  typeId := "n8n-nodes-base.hubspot"
  displayName := "HubSpot"
  description := "Interact with HubSpot CRM"
  categories := ["transform"]
  parameters := [
    .choice "resource" ["contact", "company", "deal"] "contact"]
  credentialKinds := ["hubspotApi"]
  usageHints := ["marketing automation", "contact management", "lead tracking"]

end Automation.NodeDefinition.Builtin
