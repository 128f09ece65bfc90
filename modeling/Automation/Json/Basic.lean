import Automation.Chars.Octets
import Automation.Number

/-!
# JSON values

Documents are trees of values. Integers and floating-point numbers are kept apart, texts may hold
halves of surrogate pairs, and the members of an object keep the order of their first occurrence:
putting a member whose key is there already replaces the value where it stands.

## Portable documents

What is handed to others in a document has neither infinities nor keys that are no strings.
`Json.portable` and `Members.portable` put null and replacement characters in their places; keys
inside of values are left alone, and `Json.hasStringKeys` says whether they are all strings.
-/

namespace Automation

/-- A JSON value. -/
inductive Json where
  /-- The null value. -/
  | null
  /-- A truth value. -/
  | bool (b : Bool)
  /-- A number. -/
  | number (n : Number)
  /-- A text. -/
  | text (t : Text)
  /-- An array. -/
  | array (items : List Json)
  /-- An object, as its members in order. -/
  | object (members : List (Text × Json))
  deriving Repr, Inhabited

namespace Json

mutual

/-- Decides the equality of two values. -/
def decEq : (a b : Json) → Decidable (a = b)
  | null, b => by cases b <;> first | exact isTrue rfl | exact isFalse nofun
  | bool x, b => by
    cases b with
    | bool y => exact decidable_of_iff (x = y) (by simp)
    | _ => exact isFalse nofun
  | number x, b => by
    cases b with
    | number y => exact decidable_of_iff (x = y) (by simp)
    | _ => exact isFalse nofun
  | text x, b => by
    cases b with
    | text y => exact decidable_of_iff (x = y) (by simp)
    | _ => exact isFalse nofun
  | array xs, b => by
    cases b with
    | array ys => exact @decidable_of_iff _ (xs = ys) (by simp) (decEqItems xs ys)
    | _ => exact isFalse nofun
  | object xs, b => by
    cases b with
    | object ys => exact @decidable_of_iff _ (xs = ys) (by simp) (decEqMembers xs ys)
    | _ => exact isFalse nofun

/-- Decides the equality of two lists of values. -/
def decEqItems : (as bs : List Json) → Decidable (as = bs)
  | [], [] => isTrue rfl
  | [], _ :: _ => isFalse nofun
  | _ :: _, [] => isFalse nofun
  | a :: as, b :: bs =>
    match decEq a b, decEqItems as bs with
    | isTrue h, isTrue hs => isTrue (h ▸ hs ▸ rfl)
    | isFalse h, _ => isFalse fun e => h (List.cons.inj e).1
    | _, isFalse h => isFalse fun e => h (List.cons.inj e).2

/-- Decides the equality of two lists of members. -/
def decEqMembers : (as bs : List (Text × Json)) → Decidable (as = bs)
  | [], [] => isTrue rfl
  | [], _ :: _ => isFalse nofun
  | _ :: _, [] => isFalse nofun
  | (k, a) :: as, (l, b) :: bs =>
    match decEq a b, decEqMembers as bs, (inferInstance : Decidable (k = l)) with
    | isTrue h, isTrue hs, isTrue hk => isTrue (h ▸ hs ▸ hk ▸ rfl)
    | isFalse h, _, _ => isFalse fun e => h (Prod.mk.inj (List.cons.inj e).1).2
    | _, isFalse h, _ => isFalse fun e => h (List.cons.inj e).2
    | _, _, isFalse h => isFalse fun e => h (Prod.mk.inj (List.cons.inj e).1).1

end

instance : DecidableEq Json := decEq

instance : Coe Text Json := ⟨text⟩

instance : Coe String Json := ⟨fun s => text (.ofString s)⟩

/-- An integer as a value. -/
def int (n : Int) : Json :=
  number (.int n)

/-- A floating-point number as a value. -/
def float (x : Binary64) : Json :=
  number (.float x)

/-- Members whose keys are given as strings. -/
def membersOf (fields : List (String × Json)) : List (Text × Json) :=
  fields.map fun (k, v) => (.ofString k, v)

/-- An object whose keys are given as strings. -/
def ofFields (fields : List (String × Json)) : Json :=
  object (membersOf fields)

/-- An array of texts. -/
def ofTexts (items : List Text) : Json :=
  array (items.map text)

/-- A value that may be missing; a missing one is null. -/
def ofOption {α : Type} (encode : α → Json) : Option α → Json
  | some a => encode a
  | none => null

/-- Whether a value counts as present: null, false, zeros and what is empty do not. -/
def isTruthy : Json → Bool
  | null => false
  | bool b => b
  | number n => !n.isZero
  | text t => !t.isEmpty
  | array items => !items.isEmpty
  | object members => !members.isEmpty

mutual

/-- A value with null in the place of infinities and of what is not a number, which have no place in
a document that others read. -/
def portable : Json → Json
  | number (.float .nan) => null
  | number (.float (.infinite _)) => null
  | array items => array (portableItems items)
  | object members => object (portableMembers members)
  | value => value

/-- Items made portable. -/
def portableItems : List Json → List Json
  | [] => []
  | item :: rest => portable item :: portableItems rest

/-- Members made portable. -/
def portableMembers : List (Text × Json) → List (Text × Json)
  | [] => []
  | (key, value) :: rest => (key, portable value) :: portableMembers rest

end

mutual

/-- Whether all keys of a value and inside of it are strings. -/
def hasStringKeys : Json → Bool
  | array items => haveStringKeys items
  | object members => membersHaveStringKeys members
  | _ => true

/-- Whether all keys inside of some values are strings. -/
def haveStringKeys : List Json → Bool
  | [] => true
  | item :: rest => hasStringKeys item && haveStringKeys rest

/-- Whether all keys of some members and inside of them are strings. -/
def membersHaveStringKeys : List (Text × Json) → Bool
  | [] => true
  | (key, value) :: rest => key.isString && hasStringKeys value && membersHaveStringKeys rest

end

end Json

/-- The members of an object, in order. -/
abbrev Members := List (Text × Json)

namespace Members

/-- The value of the first member with a key. -/
def get? (members : Members) (key : Text) : Option Json :=
  members.lookup key

/-- The members with the value of a key set: where the key stands, or at the end. -/
def put : Members → Text → Json → Members
  | [], key, value => [(key, value)]
  | (k, v) :: rest, key, value =>
    if k = key then (k, value) :: rest else (k, v) :: put rest key value

/-- The members with those of a second object put in, one after the other. -/
def putAll (members others : Members) : Members :=
  others.foldl (fun acc (k, v) => acc.put k v) members

/-- The members without those of given keys. -/
def without (members : Members) (keys : List Text) : Members :=
  members.filter fun (k, _) => !keys.contains k

/-- The keys, in order. -/
def keys (members : Members) : List Text :=
  members.map Prod.fst

/-- The members with strings in the place of keys that are none. -/
def legible (members : Members) : Members :=
  members.map fun (key, value) => (key.legible, value)

/-- The members of an object that is handed to others; of those that come to have one key the last
one counts. -/
def portable (members : Members) : Members :=
  putAll [] (members.legible.map fun (key, value) => (key, value.portable))

end Members

end Automation
