import Automation.Node.Definition

/-!
# Nodes that change data

Values set, computed and filtered.
-/

namespace Automation.NodeDefinition.Builtin

/-- Sets values. -/
def setValues : NodeDefinition where
  typeId := "n8n-nodes-base.set"
  displayName := "Set"
  description := "Set or modify data values"
  categories := ["transform"]
  parameters := [
    .table "values" "Values to set",
    .table "options"]
  usageHints := ["data transformation", "field mapping", "data formatting"]
  exampleParameters := some (Json.membersOf [
    ("values", .ofFields [("string", .array [.ofFields [("name", "fullName"), ("value",
      "=\x7b\x7b $json.firstName \x7d\x7d \x7b\x7b $json.lastName \x7d\x7d")]])])])

/-- Runs code. -/
def code : NodeDefinition where
  typeId := "n8n-nodes-base.code"
  displayName := "Code"
  description := "Execute custom JavaScript code"
  categories := ["transform"]
  parameters := [
    .choice "mode" ["runOnceForAllItems", "runOnceForEachItem"] "runOnceForAllItems",
    .text "jsCode" "JavaScript code to execute"]
  usageHints := ["custom logic", "complex transformations", "data validation"]
  exampleParameters := some (Json.membersOf [
    ("mode", "runOnceForAllItems"),
    ("jsCode", "return items.map(item => (\x7b ...item.json, processed: true \x7d));")])

/-- Keeps some items. -/
def filter : NodeDefinition where
  typeId := "n8n-nodes-base.filter"
  displayName := "Filter"
  description := "Filter items based on conditions"
  categories := ["transform"]
  parameters := [
    .table "conditions" "Filter conditions"]
  usageHints := ["data filtering", "validation", "conditional processing"]
  exampleParameters := some (Json.membersOf [
    ("conditions", .ofFields [("string", .array [.ofFields [("value1",
      "=\x7b\x7b $json.status \x7d\x7d"), ("operation", "equals"), ("value2", "active")]])])])

end Automation.NodeDefinition.Builtin
