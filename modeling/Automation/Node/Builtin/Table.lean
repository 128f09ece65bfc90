import Automation.Node.Definition

/-!
# Nodes that keep records

Spreadsheets, databases and workspaces.
-/

namespace Automation.NodeDefinition.Builtin

/-- Rows of Google Sheets. -/
def googleSheets : NodeDefinition where
  typeId := "n8n-nodes-base.googleSheets"
  displayName := "Google Sheets"
  description := "Read and write data to Google Sheets"
  categories := ["input", "output"]
  version := 3
  parameters := [
    .choice "operation" ["append", "read", "update", "delete"] "append",
    .text "sheetId" "The ID of the spreadsheet",
    .text "range" "The range to read/write" "A:Z"]
  credentialKinds := ["googleSheetsOAuth2Api"]
  usageHints := ["data logging", "reporting", "data sync", "tracking"]
  exampleParameters := some (Json.membersOf [
    ("operation", "append"),
    ("sheetId", "\x7b\x7b $json.spreadsheetId \x7d\x7d"),
    ("range", "Sheet1!A:Z")])

/-- Records of Airtable. -/
def airtable : NodeDefinition where
  typeId := "n8n-nodes-base.airtable"
  displayName := "Airtable"
  description := "Read and write data to Airtable"
  categories := ["input", "output"]
  parameters := [
    .choice "operation" ["create", "list", "read", "update", "delete"] "create",
    .text "base" "Base ID",
    .text "table" "Table name"]
  credentialKinds := ["airtableApi"]
  usageHints := ["CRM management", "project tracking", "database operations"]
  exampleParameters := some (Json.membersOf [
    ("operation", "create"),
    ("base", "appXXXXXXXX"),
    ("table", "Contacts")])

/-- Queries to a Postgres database. -/
def postgres : NodeDefinition where
  typeId := "n8n-nodes-base.postgres"
  displayName := "Postgres"
  description := "Execute PostgreSQL queries"
  categories := ["input", "output"]
  parameters := [
    .choice "operation" ["executeQuery", "insert", "update"] "executeQuery",
    .text "query" "SQL query to execute"]
  credentialKinds := ["postgres"]
  usageHints := ["database queries", "data storage", "data retrieval"]
  exampleParameters := some (Json.membersOf [
    ("operation", "executeQuery"),
    ("query", "SELECT * FROM users WHERE active = true")])

/-- Pages and databases of Notion. -/
def notion : NodeDefinition where
  typeId := "n8n-nodes-base.notion"
  displayName := "Notion"
  description := "Read and write to Notion databases"
  categories := ["input", "output"]
  version := 2
  parameters := [
    .choice "resource" ["page", "database", "block"] "page",
    .choice "operation" ["create", "get", "update"] "create"]
  credentialKinds := ["notionApi"]
  usageHints := ["knowledge management", "project tracking", "documentation"]

end Automation.NodeDefinition.Builtin
