import Automation.Rule.Basic

/-!
# Standard rules

The rules that are used where no others are given. Each is for one type of node and for descriptions
with certain words, and sets the parameters that such steps have in common.
-/

namespace Automation.Rule

/-- A rule for steps of one type whose description mentions one of some keywords. -/
def forType (name typeId : Text) (keywords : List Text) (values : List (String × Json)) :
    Rule where
  name
  applies := .allOf [.resolvesTo typeId, .mentions keywords]
  change := setting (Json.membersOf values)

/-- Mails. -/
def email : Rule :=
  forType "email" "n8n-nodes-base.gmail" ["email", "emails", "e-mail", "mail"] [
    ("resource", "message"),
    ("operation", "send"),
    ("subject", "=\x7b\x7b $json.subject || \"Automated Report\" \x7d\x7d"),
    ("message", "=\x7b\x7b $json.content \x7d\x7d")]

/-- Messages in Slack. -/
def slack : Rule :=
  forType "slack" "n8n-nodes-base.slack" ["slack"] [
    ("resource", "message"), ("operation", "post"),
    ("text", "=\x7b\x7b $json.message \x7d\x7d")]

/-- Summaries and analyses. -/
def summarize : Rule :=
  forType "summarize" "n8n-nodes-base.openAi"
    ["summarize", "summarise", "summarizes", "summary", "analyze", "analyse", "analyzes",
      "analysis"] [
    ("resource", "text"), ("operation", "message"), ("model", "gpt-4"),
    ("prompt", "=\x7b\x7b $json.inputText \x7d\x7d")]

/-- Filters. -/
def filter : Rule :=
  forType "filter" "n8n-nodes-base.filter" ["filter", "filters", "filtering"] [
    ("conditions", .ofFields [("string", .array [.ofFields [
      ("value1", "=\x7b\x7b $json.status \x7d\x7d"), ("operation", "equals"),
      ("value2", "active")]])])]

/-- Conditions. -/
def condition : Rule :=
  forType "condition" "n8n-nodes-base.if" ["if", "condition", "conditions", "conditional"] [
    ("conditions", .ofFields [("boolean", .array [.ofFields [
      ("value1", "=\x7b\x7b $json.condition \x7d\x7d"), ("value2", .bool true)]])])]

/-- The standard rules in their order. -/
def standard : List Rule := [email, slack, summarize, filter, condition]

end Automation.Rule
