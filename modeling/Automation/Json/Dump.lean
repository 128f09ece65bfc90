import Automation.Json.Basic
import Automation.Limits
import Automation.Number.Numeral

/-!
# Writing documents out

Before a value is written as text it is taken apart, from the outside in and from the first part to the
last. That ends at the first fault: the value goes deeper than is allowed, or a key inside of it is no
string. Whether its integers are short enough to be written is only found out when the text is made.
-/

namespace Automation

/-- Why a document cannot be written out. -/
inductive DumpFault where
  /-- A key inside of a value is no string. -/
  | notString
  /-- A value has too many levels. -/
  | depth
  /-- An integer has too many digits. -/
  | digits
  deriving DecidableEq, Repr

/-- What is told of a document that cannot be written out, if there is a wording that counts. -/
def DumpFault.message? : DumpFault → Option Text
  | notString => none
  | depth => some "Circular reference detected (depth exceeded)"
  | digits =>
    some ("Exceeds the limit (4300 digits) for integer string conversion; "
      ++ "use sys.set_int_max_str_digits() to increase the limit")

namespace Json

mutual

/-- The first fault of a value that may have a number of levels. -/
def dumpFault? : Nat → Json → Option DumpFault
  | 0, _ => some .depth
  | depth + 1, array items => itemsDumpFault? depth items
  | depth + 1, object members => membersDumpFault? depth members
  | _ + 1, _ => none

/-- The first fault of some items. -/
def itemsDumpFault? (depth : Nat) : List Json → Option DumpFault
  | [] => none
  | item :: rest => (dumpFault? depth item).or (itemsDumpFault? depth rest)

/-- The first fault of some members, each of which has its key in front of its value. -/
def membersDumpFault? (depth : Nat) : List (Text × Json) → Option DumpFault
  | [] => none
  | (key, value) :: rest =>
    if key.isString then (dumpFault? depth value).or (membersDumpFault? depth rest) else some .notString

end

/-- Whether a value has neither too many levels nor a key that is no string. -/
def canDump [Limits] (value : Json) : Bool :=
  (value.dumpFault? Limits.depth).isNone

mutual

/-- Whether all integers in a value are short enough to be written. -/
def hasShortIntegers : Json → Bool
  | number (.int n) => decide (n.natAbs < Nat.pow 10 Numeral.digitLimit)
  | array items => haveShortIntegers items
  | object members => membersHaveShortIntegers members
  | _ => true

/-- Whether all integers in some values are short enough to be written. -/
def haveShortIntegers : List Json → Bool
  | [] => true
  | item :: rest => hasShortIntegers item && haveShortIntegers rest

/-- Whether all integers in some members are short enough to be written. -/
def membersHaveShortIntegers : List (Text × Json) → Bool
  | [] => true
  | (_, value) :: rest => hasShortIntegers value && membersHaveShortIntegers rest

end

end Json

end Automation
