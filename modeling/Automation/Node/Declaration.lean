import Automation.Node.Definition

/-!
# Declaring node types in shorthand

A type of node can be declared by an object with the members `type_id`, `display_name`,
`description`, `categories`, `version`, `params`, `credentials`, `uses` and `example`; what is
missing is as for a node that does nothing. A parameter is declared by the name of its kind alone,
or by an object with the members `type`, `enum`, `default`, `required` and `description`. Values
listed under `enum` make it a choice, whatever its `type` is.

Where a list is asked for, a text stands for its characters and an object for its keys.
-/

namespace Automation.NodeDefinition

/-- What is wrong with a declaration. -/
inductive DeclarationFault where
  /-- A parameter is of a kind that does not exist. -/
  | unknownKind
  /-- A value of which a list is asked for has no items, or a kind is a list or an object. -/
  | noItems
  /-- A value of which members are asked for has none. -/
  | noMembers
  /-- Some places do not hold what they should. -/
  | invalid (defects : List Defect)
  deriving DecidableEq, Repr

/-- The kinds by the names under which they are declared. -/
def kindNames : List (Text × ParameterKind) := [
  ("string", .string), ("int", .number), ("float", .number), ("number", .number),
  ("boolean", .boolean), ("object", .object), ("options", .enum), ("enum", .enum)]

/-- The kind that a value names. -/
def declaredKind : Json → Except DeclarationFault ParameterKind
  | .text t =>
    match kindNames.lookup t with
    | some kind => .ok kind
    | none => .error .unknownKind
  | .array _ => .error .noItems
  | .object _ => .error .noItems
  | _ => .error .unknownKind

/-- The items of a value. -/
def declaredItems : Json → Except DeclarationFault (List Json)
  | .array items => .ok items
  | .object members => .ok (members.map fun (key, _) => .text key)
  | .text t => .ok (t.map fun c => .text [c])
  | _ => .error .noItems

/-- Whether a value can be an element of a set. -/
def isElement : Json → Bool
  | .array _ => false
  | .object _ => false
  | _ => true

/-- The result of a check, or its faults. -/
def orFault {α : Type} : Checked α → Except DeclarationFault α
  | .valid a => .ok a
  | .invalid defects => .error (.invalid defects)

/-- The parameter that a declaration declares under a name. -/
def declaredParameter (name : Text) : Json → Except DeclarationFault ParameterSpec
  | .text t => do
    let kind ← declaredKind (.text t)
    orFault (ParameterSpec.ofMembers (Json.membersOf [("name", .text name), ("kind", kind.name)]))
  | .object members => do
    let member (key : String) (missing : Json) := (Members.get? members key).getD missing
    let allowed := member "enum" .null
    let kind ← if allowed.isTruthy then .ok .enum else declaredKind (member "type" "string")
    let allowed ← if allowed.isTruthy then Json.array <$> declaredItems allowed else .ok .null
    orFault (ParameterSpec.ofMembers (Json.membersOf [
      ("name", .text name), ("kind", kind.name), ("default", member "default" .null),
      ("allowedValues", allowed), ("required", member "required" (.bool false)),
      ("description", member "description" "")]))
  | _ => .error .noMembers

/-- The members of a declaration, with what they are when they are missing. -/
def undeclared : Members := Json.membersOf [
  ("type_id", "n8n-nodes-base.noOp"), ("display_name", "No Operation"),
  ("description", "Does nothing"), ("categories", .array []), ("version", .int 1),
  ("params", .object []), ("credentials", .array []), ("uses", .array []), ("example", .null)]

/-- The definition that a declaration declares. -/
def declare (declaration : Members) : Except DeclarationFault NodeDefinition := do
  let member (key : String) := ((undeclared.putAll declaration).get? key).getD .null
  let categories ← declaredItems (member "categories")
  let categories ← if categories.all isElement then .ok categories else .error .noItems
  let parameters ←
    match member "params" with
    | .object members => members.mapM fun (name, value) => declaredParameter name value
    | _ => .error .noMembers
  let credentials ← declaredItems (member "credentials")
  let uses ← declaredItems (member "uses")
  let definition ← orFault (NodeDefinition.ofMembers (Json.membersOf [
    ("type_id", member "type_id"), ("display_name", member "display_name"),
    ("description", member "description"), ("category", .array categories),
    ("version", member "version"), ("required_credential_kinds", .array credentials),
    ("usage_hints", .array uses), ("example_parameters", member "example")]))
  return { definition with parameters }

end Automation.NodeDefinition
