import Automation.Node.Definition

/-!
# Nodes that start a workflow

Every workflow starts with one of these.
-/

namespace Automation.NodeDefinition.Builtin

/-- Starts on a schedule. -/
def scheduleTrigger : NodeDefinition where
  typeId := "n8n-nodes-base.cron"
  displayName := "Schedule Trigger"
  description := "Triggers workflow on a schedule using cron expressions"
  categories := ["schedule", "trigger"]
  parameters := [
    { ParameterSpec.table "triggerTimes" "When to trigger the workflow" with required := true },
    .choice "mode" ["everyMinute", "everyHour", "everyDay", "everyWeek", "everyMonth", "custom"]
      "everyWeek" "Trigger mode"]
  usageHints := ["scheduled reports", "daily backups", "weekly summaries", "recurring tasks"]
  exampleParameters := some (Json.membersOf [
    ("mode", "everyWeek"),
    ("triggerTimes", .ofFields [("item", .array [.ofFields [("hour", .int 9), ("minute", .int 0),
      ("dayOfWeek", .int 1)]])])])

/-- Starts when its address is called. -/
def webhook : NodeDefinition where
  typeId := "n8n-nodes-base.webhook"
  displayName := "Webhook"
  description := "Starts workflow when a webhook is called"
  categories := ["trigger"]
  parameters := [
    .choice "httpMethod" ["GET", "POST", "PUT", "DELETE"] "POST" "HTTP method to listen for",
    .text "path" "Webhook path",
    .choice "responseMode" ["onReceived", "lastNode"] "onReceived"]
  usageHints := ["external API integrations", "form submissions", "third-party notifications",
    "real-time events"]

/-- Starts by hand. -/
def manualTrigger : NodeDefinition where
  typeId := "n8n-nodes-base.manualTrigger"
  displayName := "Manual Trigger"
  description := "Starts the workflow when it is executed manually"
  categories := ["trigger"]
  usageHints := ["manual runs", "testing", "on-demand execution"]

/-- Starts when another workflow fails. -/
def errorTrigger : NodeDefinition where
  typeId := "n8n-nodes-base.errorTrigger"
  displayName := "Error Trigger"
  description := "Triggers when an error occurs in another workflow"
  categories := ["trigger"]
  usageHints := ["error handling", "failure notifications", "logging"]

end Automation.NodeDefinition.Builtin
