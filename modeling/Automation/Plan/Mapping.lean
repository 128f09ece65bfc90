import Automation.Chars.Digit
import Automation.Plan.Decomposition

/-!
# Mappings

For each piece of a decomposed task the type of node that does it. A mapped step is read from almost
any object: its number is the first run of digits of whatever is given for it, texts are read from
any value and trimmed, and a single credential counts as a list. Members that are not known are
kept.
-/

namespace Automation

/-- A piece of a task with the type of node that does it. -/
structure MappedStep where
  /-- The number of the piece. -/
  step : Option Int
  /-- What the piece was called. -/
  originalAction : Text
  /-- The type of node. -/
  nodeType : Text
  /-- A name for the node. -/
  nodeName : Text
  /-- Parameters of the node. -/
  parameters : Members
  /-- The credentials it needs. -/
  credentials : List Json
  /-- How data is changed on the way. -/
  dataTransformation : Json
  /-- Whether the type of node is in the catalog. -/
  known : Bool
  /-- Members beside these. -/
  others : Members
  deriving DecidableEq, Repr

/-- A task mapped to types of nodes. -/
structure TechnicalMapping where
  /-- The pieces. -/
  mappedSteps : List MappedStep
  /-- Nodes that are needed beside them. -/
  additionalNodes : List Members
  deriving DecidableEq, Repr

namespace MappedStep

/-- The first run of digits of a text. -/
def firstDigits (t : Text) : Text :=
  (t.dropWhile fun c => !Chars.isAnyDigit c).takeWhile Chars.isAnyDigit

/-- The number of a piece from any value; nothing if it has too many digits. -/
def number? : Json → Option (Option Int)
  | .null => some none
  | .bool b => some (some (if b then 1 else 0))
  | .number (.int n) => some (some n)
  | value =>
    let digits := firstDigits value.display
    if digits.isEmpty then some none
    else if Numeral.digitLimit < digits.length then none
    else some (some (Chars.numeral digits))

/-- Credentials from any value. -/
def credentialsOf : Json → List Json
  | .null => []
  | .text [] => []
  | .object members => (Members.keys members).map .text
  | .array items => items
  | value => [value]

/-- The names of the members that are known. -/
def fieldNames : List Text :=
  ["step", "originalAction", "nodeType", "nodeName", "parameters", "credentials",
    "dataTransformation", "known"]

/-- A mapped step from the members of a document. -/
def ofMembers (members : Members) : Checked MappedStep :=
  MappedStep.mk <$> members.optional ["step"] none (.leaf number?)
    <*> members.optional ["originalAction"] [] Json.trimmedText
    <*> members.optional ["nodeType"] [] Json.trimmedText
    <*> members.optional ["nodeName"] [] Json.trimmedText
    <*> members.optional ["parameters"] [] readObject
    <*> members.optional ["credentials"] [] (.leaf fun value => some (credentialsOf value))
    <*> members.optional ["dataTransformation"] .null (.leaf some)
    <*> members.optional ["known"] false (.leaf Json.flag?)
    <*> members.others fieldNames

/-- A mapped step from a document. -/
def check : Json → Checked MappedStep :=
  Json.record ofMembers

/-- A mapped step as a document, given how the object in it is written. -/
def toJsonWith (table : Members → Members) (m : MappedStep) : Json :=
  .object (Json.membersOf [
    ("step", .ofOption .int m.step),
    ("originalAction", m.originalAction),
    ("nodeType", m.nodeType),
    ("nodeName", m.nodeName),
    ("parameters", .object (table m.parameters)),
    ("credentials", .array m.credentials),
    ("dataTransformation", m.dataTransformation),
    ("known", .bool m.known)] ++ m.others)

/-- A mapped step as a document. -/
def toJson (m : MappedStep) : Json :=
  m.toJsonWith id

/-- The values in a mapped step of which nothing is known. -/
def freeValues (m : MappedStep) : List Json :=
  m.parameters.map Prod.snd ++ m.credentials ++ m.dataTransformation :: m.others.map Prod.snd

/-- A mapped step as a document that is handed to others. -/
def toPortable (m : MappedStep) : Json :=
  (m.toJsonWith Members.portable).portable

end MappedStep

namespace TechnicalMapping

/-- The mapping that says nothing. -/
def empty : TechnicalMapping := ⟨[], []⟩

/-- A mapping from the members of a document. -/
def ofMembers (members : Members) : Checked TechnicalMapping :=
  TechnicalMapping.mk <$> members.optional ["mappedSteps"] [] (Json.list MappedStep.check)
    <*> members.optional ["additionalNodes"] [] (readItemized "purpose")

/-- A mapping from a document. -/
def check : Json → Checked TechnicalMapping :=
  Json.record ofMembers

/-- A mapping as a document, given how the objects in it are written. -/
def toJsonWith (table : Members → Members) (m : TechnicalMapping) : Json :=
  .ofFields [
    ("mappedSteps", .array (m.mappedSteps.map (MappedStep.toJsonWith table))),
    ("additionalNodes", .array (m.additionalNodes.map fun a => .object (table a)))]

/-- A mapping as a document. -/
def toJson (m : TechnicalMapping) : Json :=
  m.toJsonWith id

/-- A mapping as a document that is handed to others. -/
def toPortable (m : TechnicalMapping) : Json :=
  (m.toJsonWith Members.portable).portable

/-- The values in a mapping of which nothing is known. -/
def freeValues (m : TechnicalMapping) : List Json :=
  m.mappedSteps.flatMap MappedStep.freeValues ++ m.additionalNodes.flatMap (List.map Prod.snd)

/-- A mapping as it is shown to the service, if it can be written: there has to be no half of a
surrogate pair but in the keys of its objects, and no value with too many levels. -/
def shown? [Limits] (m : TechnicalMapping) : Option Text :=
  let text := (m.toJsonWith Members.legible).write .record
  if text.isString && m.freeValues.all Json.canDump then some text else none

end TechnicalMapping

end Automation
