import Automation.Json.Alike

/-!
# Pairs

What has keys and values can be given as an object or as an array of pairs. A key is a text in an
object, and any simple value in a pair; of several pairs whose keys are alike the last one counts,
at the place of the first and with its key. A pair is an array of two items, a text of two code
points or an object with two keys. Where items are asked for, a text stands for its code points and
an object for its keys.
-/

namespace Automation

/-- Pairs of a key and a value, in order. -/
abbrev Pairs := List (Json × Json)

/-- Why a value gives no pairs. -/
inductive PairFault where
  /-- Something has no items, or a key is an array or an object. -/
  | noItems
  /-- The item at a place is no pair, but has some other number of items. -/
  | notPair (place size : Nat)
  deriving DecidableEq, Repr

namespace PairFault

/-- What is told of a fault, if it has a wording that counts. -/
def message? : PairFault → Option String
  | noItems => none
  | notPair place size =>
    some ("dictionary update sequence element #" ++ toString place ++ " has length "
      ++ toString size ++ "; 2 is required")

end PairFault

namespace Pairs

/-- The pairs with the value of a key set: where one that is alike stands, or at the end. -/
def put : Pairs → Json → Json → Pairs
  | [], key, value => [(key, value)]
  | (k, v) :: rest, key, value =>
    if k.alike key then (k, value) :: rest else (k, v) :: put rest key value

/-- The pairs that members are. -/
def ofMembers (members : Members) : Pairs :=
  members.map fun (key, value) => (.text key, value)

/-- The pairs whose keys are texts, as members. -/
def named (pairs : Pairs) : Members :=
  pairs.filterMap fun (key, value) =>
    match key with
    | .text key => some (key, value)
    | _ => none

end Pairs

namespace Json

/-- Whether a value is a list or an object. -/
def isCompound : Json → Bool
  | array _ => true
  | object _ => true
  | _ => false

/-- The items of a value that has any. -/
def items? : Json → Option (List Json)
  | array items => some items
  | object members => some (members.map fun (key, _) => text key)
  | text t => some (t.map fun c => text [c])
  | _ => none

/-- The key and the value that the item at a place pairs. -/
def pair? (place : Nat) (item : Json) : Except PairFault (Json × Json) :=
  match item.items? with
  | some [key, value] => if key.isCompound then .error .noItems else .ok (key, value)
  | some items => .error (.notPair place items.length)
  | none => .error .noItems

/-- Pairs with those put in that some items are, the first of which is at a place. -/
def addPairs (pairs : Pairs) (place : Nat) : List Json → Except PairFault Pairs
  | [] => .ok pairs
  | item :: rest =>
    match pair? place item with
    | .ok (key, value) => addPairs (pairs.put key value) (place + 1) rest
    | .error fault => .error fault

/-- The pairs that a value gives. -/
def asPairs : Json → Except PairFault Pairs
  | object members => .ok (.ofMembers members)
  | value =>
    match value.items? with
    | some items => addPairs [] 0 items
    | none => .error .noItems

end Json

end Automation
