import Automation.Json.Display
import Automation.Record
import Automation.Step.Order

/-!
# Reading steps

A step is read from an object, under the names used in documents or under longer names. Texts are
read from any value and trimmed, and a missing text is empty.

## Lists of steps

`Step.readList` takes whatever was answered for a list of steps. Entries that are no steps are left
out; the others are put in the order of the numbers they declare, and are numbered anew. An entry
that declares no number has the one of its place in the list, counted before anything is left out.
Entries with equal numbers keep the order of the list. A declared infinity fits nowhere, and the
list is not read then.
-/

namespace Automation.Step

/-- A text read from any value; null for none. -/
def readNote : Json → Checked (Option Text) :=
  Json.nullable (.leaf fun value => some value.asText)

/-- A truth value; as a text, only a word for true is true. -/
def flag? : Json → Option Bool
  | .null => some false
  | .text t => some ((["true", "yes", "1"] : List Text).contains t.trim.lower)
  | value => value.flag?

/-- A number of a step. -/
def index? (value : Json) : Option Nat :=
  match value.int? with
  | some n => if 1 ≤ n then some n.toNat else none
  | none => none

/-- The kind of a step. -/
def readKind : Json → Checked StepKind :=
  .leaf fun value => some (.ofJson value)

/-- A step whose number and kind are read in some other way. -/
def checkWith (index : Checked Nat) (kind : Checked StepKind) (members : Members) : Checked Step :=
  Step.mk <$> index <*> kind
    <*> members.optional ["description"] [] Json.trimmedText
    <*> members.optional ["service", "service_label"] [] Json.trimmedText
    <*> members.optional ["nodeType", "node_type_id"] [] Json.trimmedText
    <*> members.optional ["rationale"] none readNote
    <*> members.optional ["parallelizable"] false (.leaf flag?)
    <*> members.optional ["errorHandling", "error_handling_note"] none readNote

/-- A step from the members of a document. -/
def ofMembers (members : Members) : Checked Step :=
  checkWith (members.required ["step", "index"] (.leaf index?))
    (members.required ["type", "kind"] readKind) members

/-- A step on its own. -/
def check : Json → Checked Step :=
  Json.record ofMembers

/-! ### Lists -/

/-- What an entry of a list declares its number to be. -/
inductive Declared where
  /-- A number. -/
  | number (n : Int)
  /-- Nothing that is a number. -/
  | nothing
  /-- An infinity. -/
  | unbounded
  deriving DecidableEq, Repr

/-- The number that a value declares; a fraction is cut off. -/
def Declared.ofJson : Json → Declared
  | .bool b => number (if b then 1 else 0)
  | .number (.int n) => number n
  | .number (.float .nan) => nothing
  | .number (.float (.infinite _)) => unbounded
  | .number (.float (.finite negative m e)) => number (Binary64.truncated negative m e)
  | .text t =>
    match Numeral.integer t with
    | some n => number n
    | none => nothing
  | _ => nothing

/-- The number that an entry declares. -/
def Declared.ofMembers (members : Members) : Declared :=
  match members.named ["step", "index"] with
  | some (_, value) => ofJson value
  | none => nothing

/-- The step that an entry at a place of a list describes. -/
def readEntry (place : Nat) (members : Members) : Option Step :=
  (checkWith (.valid place)
    (members.optional ["type", "kind"] .process readKind) members).toOption

/-- The steps of a list from a place on, each with the number it goes by; nothing if an entry
declares an infinity. -/
def readEntries : Nat → List Json → Option (List (Int × Step))
  | _, [] => some []
  | place, .object members :: rest =>
    let number? : Option Int :=
      match Declared.ofMembers members with
      | .number n => some n
      | .nothing => some place
      | .unbounded => none
    match number?, readEntries (place + 1) rest with
    | some n, some steps =>
      match readEntry place members with
      | some step => some ((n, step) :: steps)
      | none => some steps
    | _, _ => none
  | place, _ :: rest => readEntries (place + 1) rest

/-- The list that an answer holds, bare or as its steps. -/
def listOf : Json → List Json
  | .array items => items
  | .object members =>
    match Members.get? members "steps" with
    | some (.array items) => items
    | _ => []
  | _ => []

/-- The steps that an answer lists, in the order of their numbers; nothing if an entry declares an
infinity. -/
def readList (answer : Json) : Option (List Step) :=
  (readEntries 1 (listOf answer)).map fun steps =>
    reindex ((steps.mergeSort fun a b => decide (a.1 ≤ b.1)).map Prod.snd)

end Automation.Step
