import Automation.Json.Display
import Automation.Json.Reader

/-!
# Records in documents

A record is read from an object field by field. A field has one or more names, the preferred one
first; the first name that is a key of the object decides. Reading does not stop at the first bad
field: `Checked.invalid` lists all defects, each with the name of the field under which it was
found, and a missing field under its preferred name. The empty name stands for the value as a whole.

A defect tells the part of the document at fault, which may lie deep inside of the field: the value
that is not what it should be, or the object in which something is missing. It also tells the keys
of the tables on the way there.

## Lenient fields

Values are read leniently where nothing can be mistaken: a truth value or a whole number with a
fraction of zero counts as an integer, and so does a numeral; zero, one and the usual words count as
truth values. A text is only read from a text, unless any value may stand in its place.
-/

namespace Automation

/-- A part of a document that is not what it should be. -/
structure Defect where
  /-- The name of the field in which it was found. -/
  place : String
  /-- The part at fault. -/
  found : Json
  /-- The keys of the tables in which it was found. -/
  keys : List Text := []
  deriving DecidableEq, Repr

/-- What was read of a document, or everything that is wrong with it. -/
inductive Checked (α : Type) where
  /-- What was read. -/
  | valid (a : α)
  /-- The parts at fault. -/
  | invalid (defects : List Defect)
  deriving DecidableEq, Repr

namespace Checked

/-- What was read, made into something else. -/
def map {α β : Type} (f : α → β) : Checked α → Checked β
  | valid a => valid (f a)
  | invalid defects => invalid defects

/-- Something made of two parts; the defects are those of both. -/
def seq {α β : Type} : Checked (α → β) → Checked α → Checked β
  | valid f, valid a => valid (f a)
  | valid _, invalid defects => invalid defects
  | invalid defects, valid _ => invalid defects
  | invalid defects, invalid more => invalid (defects ++ more)

instance : Applicative Checked where
  pure := valid
  map := map
  seq f a := seq f (a ())

/-- What was read, if there is no defect. -/
def toOption {α : Type} : Checked α → Option α
  | valid a => some a
  | invalid _ => none

/-- What was read in a field with a name. -/
def inField {α : Type} (name : String) : Checked α → Checked α
  | valid a => valid a
  | invalid defects => invalid (defects.map fun d => { d with place := name })

/-- What was read under a key of a table. -/
def underKey {α : Type} (key : Text) : Checked α → Checked α
  | valid a => valid a
  | invalid defects => invalid (defects.map fun d => { d with keys := key :: d.keys })

/-- A value that is read as a whole. -/
def leaf {α : Type} (read : Json → Option α) (value : Json) : Checked α :=
  match read value with
  | some a => valid a
  | none => invalid [{ place := "", found := value }]

/-- Values that are read one by one. -/
def items {α : Type} (item : Json → Checked α) : List Json → Checked (List α)
  | [] => valid []
  | value :: rest => List.cons <$> item value <*> items item rest

/-- Members whose values are read one by one. -/
def table {α : Type} (read : Json → Checked α) : Members → Checked (List (Text × α))
  | [] => valid []
  | (key, value) :: rest =>
    (fun a more => (key, a) :: more) <$> (read value).underKey key <*> table read rest

end Checked

namespace Json

/-- A text. -/
def text? : Json → Option Text
  | text t => some t
  | _ => none

/-- A text from any value, without the blanks around it. -/
def trimmedText : Json → Checked Text :=
  .leaf fun value => some value.asText.trim

/-- The whole number that a floating-point number equals, if it has 64 bits. -/
def wholeFloat? (x : Binary64) : Option Int :=
  match x.toInt? with
  | some n => if n.natAbs < Nat.pow 2 63 then some n else none
  | none => none

/-- An integer, read leniently. -/
def int? : Json → Option Int
  | bool b => some (if b then 1 else 0)
  | number (.int n) => some n
  | number (.float x) => wholeFloat? x
  | text t => Numeral.plainInteger t
  | _ => none

/-- The words for true. -/
def trueWords : List Text := ["1", "on", "t", "true", "y", "yes"]

/-- The words for false. -/
def falseWords : List Text := ["0", "off", "f", "false", "n", "no"]

/-- The truth value of a number. -/
def flagOfInt (n : Int) : Option Bool :=
  if n = 0 then some false else if n = 1 then some true else none

/-- A truth value, read leniently. -/
def flag? : Json → Option Bool
  | bool b => some b
  | number (.int n) => flagOfInt n
  | number (.float x) => (wholeFloat? x).bind flagOfInt
  | text t =>
    if trueWords.contains t.toLower then some true
    else if falseWords.contains t.toLower then some false
    else none
  | _ => none

/-- The members of an object. -/
def members? : Json → Option Members
  | object members => some members
  | _ => none

/-- An array, with every item read. -/
def list {α : Type} (item : Json → Checked α) : Json → Checked (List α)
  | array items => .items item items
  | value => .invalid [{ place := "", found := value }]

/-- An object, with every value read. -/
def table {α : Type} (read : Json → Checked α) : Json → Checked (List (Text × α))
  | object members => .table read members
  | value => .invalid [{ place := "", found := value }]

/-- A value that may be null. -/
def nullable {α : Type} (read : Json → Checked α) : Json → Checked (Option α)
  | null => .valid none
  | value => some <$> read value

/-- A record: an object, read by its members. -/
def record {α : Type} (read : Members → Checked α) : Json → Checked α
  | object members => read members
  | value => .invalid [{ place := "", found := value }]

end Json

namespace Members

/-- The first of some names that is a key, with its value. -/
def named (members : Members) (names : List String) : Option (String × Json) :=
  names.findSome? fun (name : String) => (members.get? name).map fun value => (name, value)

/-- A field of a record, given what a missing one means. -/
def field {α : Type} (members : Members) (names : List String) (missing : Checked α)
    (read : Json → Checked α) : Checked α :=
  match members.named names with
  | none => missing
  | some (name, value) => (read value).inField name

/-- A field that may be missing. -/
def optional {α : Type} (members : Members) (names : List String) (missing : α)
    (read : Json → Checked α) : Checked α :=
  members.field names (.valid missing) read

/-- A field that must be there. -/
def required {α : Type} (members : Members) (names : List String) (read : Json → Checked α) :
    Checked α :=
  members.field names (.invalid [{ place := names.headD "", found := .object members }]) read

end Members

end Automation
