import Automation.Json.Pairs
import Automation.Node.Parameters

/-!
# Definitions whose parameters can be checked

Not every definition has a model of its parameters. A parameter must not have a name that the model
needs for itself, and names and allowed values have to be such that they can be looked up. The model
is made from the names first; what is wrong with the values of a choice is found even before that.

Parameters that are checked may be given as an object or as pairs, where the keys need not be texts.
-/

namespace Automation

/-- Why the parameters of a definition cannot be checked. -/
inductive ModelFault where
  /-- An allowed value is a list or an object. -/
  | compound
  /-- A parameter has a name that the model needs for a setting. -/
  | setting
  /-- A parameter has the name under which a model keeps what it knows of its parameters. -/
  | annotations
  /-- A parameter has the name of something that a model can do. -/
  | ability (name : Text)
  /-- A name or an allowed text is no string. -/
  | notString
  deriving DecidableEq, Repr

namespace ModelFault

/-- The names of settings that a model is made with. -/
def settings : List Text :=
  ["__config__", "__base__", "__cls_kwargs__", "__validators__"]

/-- The names of settings that a model has. -/
def ownSettings : List Text :=
  ["__slots__", "__qualname__", "__classcell__"]

/-- The names of what a model can do. -/
def abilities : List Text :=
  ["model_validate", "model_validate_json", "model_validate_strings", "model_dump",
    "model_dump_json"]

/-- What is wrong with the names of parameters. -/
def ofNames? (names : List Text) : Option ModelFault :=
  if names.any settings.contains then some setting
  else if names.contains "__annotations__" then some annotations
  else if names.any ownSettings.contains then some setting
  else
    match names.find? abilities.contains with
    | some name => some (ability name)
    | none => if names.all Text.isString then none else some notString

end ModelFault

namespace ParameterForm

/-- The values of a choice; none for any other form. -/
def choices : ParameterForm → List Json
  | oneOf allowed => allowed
  | _ => []

end ParameterForm

namespace NodeDefinition

/-- The values of all choices among the parameters. -/
def choices (d : NodeDefinition) : List Json :=
  d.parameters.flatMap fun spec => (ParameterForm.ofSpec spec).choices

/-- What keeps the parameters of a definition from being checked, if anything does. -/
def modelFault? (d : NodeDefinition) : Option ModelFault :=
  if d.choices.any Json.isCompound then some .compound
  else
    match ModelFault.ofNames? (d.parameters.map ParameterSpec.name) with
    | some fault => some fault
    | none => if d.choices.all isWritable then none else some .notString
where
  /-- Whether a value is no text but a string. -/
  isWritable : Json → Bool
    | .text t => t.isString
    | _ => true

end NodeDefinition

namespace ParameterModel

/-- What is told of a key that is no text, but a whole number of 64 bits or a truth value, which
counts as a number. -/
def wholeKey? : Json → Option Json
  | .bool b => some (.int (if b then 1 else 0))
  | .number (.int n) => if ParameterForm.isLiteral (.int n) then some (.int n) else none
  | _ => none

/-- A model in which some texts have to be there, if their names allow it. -/
def require? (model : ParameterModel) (names : List Text) : Except ModelFault ParameterModel :=
  match ModelFault.ofNames? names with
  | some fault => .error fault
  | none => .ok (model.require names)

/-- The parameters in some pairs that are at fault, and can be dropped one by one; none if there is a text
among the keys that is no string. -/
def strayKeys (model : ParameterModel) (given : Pairs) : List Json :=
  let faulty := (model.filter (isFault given.named)).map ParameterField.name
  if given.named.keys.all Text.isString then
    (faulty.filter given.named.keys.contains).map Json.text
      ++ given.filterMap fun (key, _) => unknown? key
  else []
where
  /-- A key that is unknown and can be dropped by itself. -/
  unknown? : Json → Option Json
    | .text key => if model.declares key then none else some (.text key)
    | key => wholeKey? key

/-- The parameters that remain of some pairs, and the keys that were dropped. A key that is no text
is unknown. If it is no whole number either it is at fault for ever, and nothing remains. -/
def cleanPairs (model : ParameterModel) (given : Pairs) : Members × List Json :=
  let dropped := model.strayKeys given
  let rest : Pairs := given.filter fun (key, _) => !dropped.any key.alike
  if rest.length = rest.named.length then
    let (kept, rejected) := model.clean rest.named
    (kept, dropped ++ rejected.map Json.text)
  else ([], dropped ++ rest.map Prod.fst)

/-- The parameters that remain of those that a value gives, and the keys that were dropped. -/
def cleanGiven (model : ParameterModel) (given : Json) : Except PairFault (Members × List Json) :=
  given.asPairs.map model.cleanPairs

end ParameterModel

end Automation
