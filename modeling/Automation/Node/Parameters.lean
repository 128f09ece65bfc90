import Automation.Json.Alike
import Automation.Node.Definition

/-!
# Checking parameters

A node takes the parameters of its definition and no others. Every parameter may be null. In the
place of any value but a plain text an expression may stand, a text that begins with an equals sign.
Numbers, truth values and whole records are read leniently, so that a numeral becomes a number.

## Cleaning

`ParameterModel.clean` checks an object of parameters and drops whatever is at fault, until nothing
is. It tells the parameters that remain, in the order of the definition, and the keys that were
dropped, in the order in which they were dropped: in one round first the parameters with bad values
in the order of the definition, then the unknown keys in the order of the object. If a round finds
faults, but none with a key that could be dropped, nothing remains. A key that is no string is a fault
of the whole object.
-/

namespace Automation

/-- The form of the values of a parameter. -/
inductive ParameterForm where
  /-- A text. -/
  | string
  /-- A number or an expression. -/
  | number
  /-- A truth value or an expression. -/
  | boolean
  /-- An object or an expression. -/
  | object
  /-- One of a few values or an expression. -/
  | oneOf (allowed : List Json)
  deriving DecidableEq, Repr

/-- Whether a value is an expression. -/
def isExpression : Json → Bool
  | .text t => t.head? == some '=' && t.isString
  | _ => false

namespace ParameterForm

/-- The form that a definition asks for. -/
def ofSpec (spec : ParameterSpec) : ParameterForm :=
  match spec.kind, spec.allowedValues with
  | .string, _ => string
  | .number, _ => number
  | .boolean, _ => boolean
  | .object, _ => object
  | .enum, some (first :: rest) => oneOf (first :: rest)
  | .enum, _ => string

/-- A number, read leniently. -/
def readNumber : Json → Option Json
  | .number n => some (.number n)
  | .bool b => some (.int (if b then 1 else 0))
  | .text t =>
    match Numeral.plainInteger t with
    | some n => some (.int n)
    | none => (Numeral.plainFloat t).map Json.float
  | _ => none

/-- Whether a value is allowed as it stands before it is compared with others: truth values, texts,
and integers of 64 bits. -/
def isLiteral : Json → Bool
  | .bool _ => true
  | .text _ => true
  | .number (.int n) => decide (-9223372036854775808 ≤ n) && decide (n < 9223372036854775808)
  | _ => false

/-- The allowed value that a value stands for: the value itself, or else one that is alike, where
values that are no literals come first and later ones before earlier ones. -/
def readLiteral (allowed : List Json) (value : Json) : Option Json :=
  if isLiteral value && allowed.contains value then some value
  else
    let alike := allowed.reverse.filter fun a => a.alike value
    match alike.find? fun a => !isLiteral a with
    | some a => some a
    | none => alike.head?

/-- A value of the form without regard to null and expressions. -/
def readPlain : ParameterForm → Json → Option Json
  | string, value => value.text?.map Json.text
  | number, value => readNumber value
  | boolean, value => value.flag?.map Json.bool
  | object, value => value.members?.map Json.object
  | oneOf allowed, value => readLiteral allowed value

/-- The value of a parameter that a value of a document stands for. -/
def read (form : ParameterForm) (value : Json) : Option Json :=
  if value = .null then some .null
  else
    match form.readPlain value with
    | some v => some v
    | none => if isExpression value then some value else none

end ParameterForm

/-- A parameter as it is checked. -/
structure ParameterField where
  /-- Its name. -/
  name : Text
  /-- The form of its values. -/
  form : ParameterForm
  /-- Whether it has to be there, as a text and not as null. -/
  required : Bool := false
  deriving DecidableEq, Repr

/-- The parameters of a type of node as they are checked, each name once. -/
abbrev ParameterModel := List ParameterField

namespace ParameterField

/-- The value of the parameter that a value of a document stands for. -/
def read (field : ParameterField) (value : Json) : Option Json :=
  if field.required then field.form.readPlain value else field.form.read value

end ParameterField

namespace ParameterModel

/-- Whether a name is never that of a parameter: names that begin with an underscore, and one that
belongs to the model itself. -/
def isPrivate (name : Text) : Bool :=
  name.head? == some '_' || name == "model_config"

/-- A model with a parameter put in: in the place of one with its name, or at the end. -/
def put (model : ParameterModel) (field : ParameterField) : ParameterModel :=
  if isPrivate field.name then model
  else if model.any fun f => f.name == field.name then
    model.map fun f => if f.name = field.name then field else f
  else model ++ [field]

/-- The model of the parameters of a definition. -/
def ofDefinition (d : NodeDefinition) : ParameterModel :=
  d.parameters.foldl (fun model spec => put model ⟨spec.name, .ofSpec spec, false⟩) []

/-- A model in which some texts have to be there. -/
def require (model : ParameterModel) (names : List Text) : ParameterModel :=
  names.foldl (fun model name => put model ⟨name, .string, true⟩) model

/-- Whether a key is a parameter. -/
def declares (model : ParameterModel) (key : Text) : Bool :=
  model.any fun field => key == field.name

/-- Whether a parameter is at fault in an object: its value is bad, or it is missing. -/
def isFault (candidate : Members) (field : ParameterField) : Bool :=
  match candidate.get? field.name with
  | some value => (field.read value).isNone
  | none => field.required

/-- The places at fault in an object of parameters: parameters first, unknown keys after them. -/
def faults (model : ParameterModel) (candidate : Members) : List Text :=
  (model.filter (isFault candidate)).map ParameterField.name
    ++ candidate.keys.filter fun key => !model.declares key

/-- The parameters of an object in which nothing is at fault. -/
def values (model : ParameterModel) (candidate : Members) : Members :=
  model.filterMap fun field =>
    ((candidate.get? field.name).bind field.read).map fun value => (field.name, value)

/-- An object without some of its keys. -/
def drop (candidate : Members) (keys : List Text) : Members :=
  candidate.filter fun (key, _) => !keys.contains key

/-- The keys of an object that are at fault, each once; none if there is one that is no string. -/
def badKeys (model : ParameterModel) (candidate : Members) : List Text :=
  if candidate.keys.all Text.isString then
    ((model.faults candidate).filter fun key => candidate.keys.contains key).eraseDups
  else []

theorem mem_keys_of_mem_badKeys {model : ParameterModel} {candidate : Members} {key : Text}
    (h : key ∈ model.badKeys candidate) : key ∈ candidate.keys := by
  unfold badKeys at h
  split at h
  · simpa using (List.mem_filter.1 (List.mem_eraseDups.1 h)).2
  · cases h

theorem length_drop_badKeys {model : ParameterModel} {candidate : Members}
    (h : model.badKeys candidate ≠ []) :
    (drop candidate (model.badKeys candidate)).length < candidate.length := by
  obtain ⟨key, hkey⟩ := List.exists_mem_of_ne_nil _ h
  obtain ⟨⟨k, v⟩, hm, rfl⟩ := List.mem_map.1 (mem_keys_of_mem_badKeys hkey)
  exact List.length_filter_lt_length_iff_exists.2 ⟨(k, v), hm, by simpa using hkey⟩

/-- The parameters that remain of an object, and the keys that were dropped. -/
def clean (model : ParameterModel) (candidate : Members) : Members × List Text :=
  if model.faults candidate = [] then (model.values candidate, [])
  else if _ : model.badKeys candidate = [] then ([], candidate.keys)
  else
    let (kept, rejected) := clean model (drop candidate (model.badKeys candidate))
    (kept, model.badKeys candidate ++ rejected)
termination_by candidate.length
decreasing_by exact length_drop_badKeys (by assumption)

end ParameterModel

end Automation
