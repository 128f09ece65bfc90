import Automation.Record

/-!
# Definitions of node types

What is known about a type of node that a workflow can use: its identity, what it is for, which
parameters it takes and which credentials it needs.
-/

namespace Automation

/-- The kind of values a parameter takes. -/
inductive ParameterKind where
  /-- Texts. -/
  | string
  /-- Numbers. -/
  | number
  /-- Truth values. -/
  | boolean
  /-- Objects. -/
  | object
  /-- One of a few values. -/
  | enum
  deriving DecidableEq, Repr, Inhabited

namespace ParameterKind

/-- All kinds. -/
def all : List ParameterKind := [string, number, boolean, object, enum]

/-- The name by which a kind is written. -/
def name : ParameterKind → String
  | string => "string"
  | number => "number"
  | boolean => "boolean"
  | object => "object"
  | enum => "enum"

/-- The kind with a name. -/
def ofName? (t : Text) : Option ParameterKind :=
  all.find? fun kind => t == kind.name

end ParameterKind

/-- A parameter of a type of node. -/
structure ParameterSpec where
  /-- Its name. -/
  name : Text
  /-- The kind of its values. -/
  kind : ParameterKind
  /-- What it is when it is not given. -/
  default : Json := .null
  /-- The values it can have, if there are only a few. -/
  allowedValues : Option (List Json) := none
  /-- Whether a node cannot do without it. -/
  required : Bool := false
  /-- What it is for. -/
  description : Text := []
  deriving DecidableEq, Repr, Inhabited

/-- A type of node. -/
structure NodeDefinition where
  /-- Its identity. -/
  typeId : Text
  /-- Its name for people. -/
  displayName : Text
  /-- What it does. -/
  description : Text := []
  /-- The groups it belongs to, in alphabetical order and without repetition. -/
  categories : List Text := []
  /-- The version of the type that is used. -/
  version : Int := 1
  /-- The parameters it takes. -/
  parameters : List ParameterSpec := []
  /-- The kinds of credentials it needs. -/
  credentialKinds : List Text := []
  /-- What it is good for. -/
  usageHints : List Text := []
  /-- Parameters as an example, with which a node starts out. -/
  exampleParameters : Option Members := none
  deriving DecidableEq, Repr, Inhabited

/-- Texts in alphabetical order without repetition. -/
def sortedSet (items : List Text) : List Text :=
  (items.mergeSort fun a b => decide (a ≤ b)).eraseDups

namespace ParameterSpec

/-- A parameter that has one of a few texts as its value. -/
def choice (name : Text) (allowed : List Text) (default : Text) (description : Text := []) :
    ParameterSpec where
  name
  kind := .enum
  default
  allowedValues := some (allowed.map .text)
  description

/-- A parameter that has a text as its value. -/
def text (name description : Text) (default : Text := []) : ParameterSpec where
  name
  kind := .string
  default
  description

/-- A parameter that has an object as its value, by default one without members. -/
def table (name : Text) (description : Text := []) : ParameterSpec where
  name
  kind := .object
  default := .object []
  description

/-- A parameter that has a number as its value. -/
def amount (name : Text) (default : Int) (description : Text) : ParameterSpec where
  name
  kind := .number
  default := .int default
  description

/-- A parameter as a document. -/
def toJson (p : ParameterSpec) : Json :=
  .ofFields [
    ("name", p.name),
    ("kind", p.kind.name),
    ("default", p.default.portable),
    ("allowedValues", .ofOption (fun items => .portable (.array items)) p.allowedValues),
    ("required", .bool p.required),
    ("description", p.description)]

/-- A parameter from a document. -/
def ofMembers (members : Members) : Checked ParameterSpec :=
  ParameterSpec.mk <$> members.required ["name"] (.leaf Json.text?)
    <*> members.required ["kind"] (.leaf fun value => value.text?.bind ParameterKind.ofName?)
    <*> members.optional ["default"] .null (.leaf some)
    <*> members.optional ["allowedValues", "allowed_values"] none
      (Json.nullable (Json.list (.leaf some)))
    <*> members.optional ["required"] false (.leaf Json.flag?)
    <*> members.optional ["description"] [] (.leaf Json.text?)

end ParameterSpec

namespace NodeDefinition

/-- A definition as a document. -/
def toJson (d : NodeDefinition) : Json :=
  .ofFields [
    ("typeId", d.typeId),
    ("displayName", d.displayName),
    ("description", d.description),
    ("category", .ofTexts d.categories),
    ("version", .int d.version),
    ("parameterSchema", .array (d.parameters.map ParameterSpec.toJson)),
    ("requiredCredentialKinds", .ofTexts d.credentialKinds),
    ("usageHints", .ofTexts d.usageHints),
    ("exampleParameters", .ofOption (fun m => .object m.portable) d.exampleParameters)]

/-- A definition from the members of a document. -/
def ofMembers (members : Members) : Checked NodeDefinition :=
  NodeDefinition.mk <$> members.required ["typeId", "type_id"] (.leaf Json.text?)
    <*> members.required ["displayName", "display_name"] (.leaf Json.text?)
    <*> members.optional ["description"] [] (.leaf Json.text?)
    <*> members.optional ["category"] [] (fun value => sortedSet <$> texts value)
    <*> members.optional ["version"] 1 (.leaf Json.int?)
    <*> members.optional ["parameterSchema", "parameter_schema"] []
      (Json.list (Json.record ParameterSpec.ofMembers))
    <*> members.optional ["requiredCredentialKinds", "required_credential_kinds"] [] texts
    <*> members.optional ["usageHints", "usage_hints"] [] texts
    <*> members.optional ["exampleParameters", "example_parameters"] none
      (Json.nullable (.leaf Json.members?))
where
  /-- A list of texts. -/
  texts : Json → Checked (List Text) := Json.list (.leaf Json.text?)

/-- A definition from a document. -/
def check : Json → Checked NodeDefinition :=
  Json.record ofMembers

end NodeDefinition

end Automation
