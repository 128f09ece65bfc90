import Automation.Json.Display
import Automation.Json.Dump
import Automation.Limits
import Automation.Record

/-!
# Decompositions

A task taken apart: what starts it, which data it needs, what is done and what comes out. Almost any
object can be read as one. The trigger is an object with a type, lists hold objects, and whatever
else is given in the place of an object becomes the member that matters most. Members that are not
known are kept.
-/

namespace Automation

/-- The members for one item of a list: those of an object, or one member with a given name; none
for null. -/
def itemMembers? (name : String) : Json → Option Members
  | .null => none
  | .object members => some members
  | value => some (Json.membersOf [(name, .text value.asText)])

/-- The members for each item of a list, or for a single item. -/
def itemized (name : String) : Json → List Members
  | .array items => items.filterMap (itemMembers? name)
  | value => (itemMembers? name value).toList

/-- A list of objects from any value. -/
def readItemized (name : String) : Json → Checked (List Members) :=
  .leaf fun value => some (itemized name value)

/-- An object from any value; one without members if it is none. -/
def readObject : Json → Checked Members :=
  .leaf fun value => some (value.members?.getD [])

namespace Members

/-- The members whose keys are not among some names; all keys have to be strings. -/
def others (members : Members) (names : List Text) : Checked Members :=
  if (members.without names).all fun (key, _) => key.isString then .valid (members.without names)
  else .invalid [{ place := "", found := .object members }]

end Members

/-- A task taken apart. -/
structure Decomposition where
  /-- What starts it. -/
  trigger : Members
  /-- The data it needs. -/
  dataSources : List Members
  /-- What is done. -/
  processingSteps : List Members
  /-- What comes out. -/
  outputs : List Members
  /-- Conditions, loops and the like. -/
  specialLogic : Members
  /-- Members beside these. -/
  others : Members
  deriving DecidableEq, Repr

namespace Decomposition

/-- A trigger by hand. -/
def manualTrigger : Members := Json.membersOf [("type", "manual")]

/-- The decomposition that says nothing. -/
def empty : Decomposition := ⟨manualTrigger, [], [], [], [], []⟩

/-- A trigger from any value. -/
def triggerOf (value : Json) : Members :=
  if !value.isTruthy then manualTrigger
  else
    match value with
    | .object members =>
      if ((Members.get? members "type").getD .null).isTruthy then members
      else Members.put members "type" "manual"
    | value => Json.membersOf [("type", .text value.asText)]

/-- The names of the members that are known. -/
def known : List Text :=
  ["trigger", "dataSources", "processingSteps", "outputs", "specialLogic"]

/-- A decomposition from the members of a document. -/
def ofMembers (members : Members) : Checked Decomposition :=
  Decomposition.mk
    <$> members.optional ["trigger"] manualTrigger (.leaf fun value => some (triggerOf value))
    <*> members.optional ["dataSources"] [] (readItemized "name")
    <*> members.optional ["processingSteps"] [] (readItemized "action")
    <*> members.optional ["outputs"] [] (readItemized "name")
    <*> members.optional ["specialLogic"] [] readObject
    <*> members.others known

/-- A decomposition from a document. -/
def check : Json → Checked Decomposition :=
  Json.record ofMembers

/-- A decomposition as a document, given how the objects in it are written. -/
def toJsonWith (table : Members → Members) (d : Decomposition) : Json :=
  .object (Json.membersOf [
    ("trigger", .object (table d.trigger)),
    ("dataSources", .array (d.dataSources.map fun m => .object (table m))),
    ("processingSteps", .array (d.processingSteps.map fun m => .object (table m))),
    ("outputs", .array (d.outputs.map fun m => .object (table m))),
    ("specialLogic", .object (table d.specialLogic))] ++ d.others)

/-- A decomposition as a document. -/
def toJson (d : Decomposition) : Json :=
  d.toJsonWith id

/-- A decomposition as a document that is handed to others. -/
def toPortable (d : Decomposition) : Json :=
  (d.toJsonWith Members.portable).portable

/-- The values in a decomposition of which nothing is known. -/
def freeValues (d : Decomposition) : List Json :=
  ([d.trigger] ++ d.dataSources ++ d.processingSteps ++ d.outputs ++ [d.specialLogic, d.others]).flatMap
    (List.map Prod.snd)

/-- A decomposition as it is shown to the service, if it can be written: there has to be no half of
a surrogate pair but in the keys of its objects, and no value with too many levels. -/
def shown? [Limits] (d : Decomposition) : Option Text :=
  let text := (d.toJsonWith Members.legible).write .record
  if text.isString && d.freeValues.all Json.canDump then some text else none

end Decomposition

end Automation
