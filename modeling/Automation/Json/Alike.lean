import Automation.Json.Basic

/-!
# Values that are alike

Two simple values are alike if they say the same: numbers count by value, with the truth values as
one and zero, and all not-a-numbers count as one. Arrays and objects are like nothing.
-/

namespace Automation.Json

/-- What a number comes to: an integer times a power of two, or no number of which an exact
comparison can be made. -/
inductive Magnitude where
  /-- The number `n · 2 ^ -e`. -/
  | exact (n : Int) (e : Nat)
  /-- An infinity. -/
  | infinite (negative : Bool)
  /-- Not a number. -/
  | undefined
  deriving DecidableEq, Repr

/-- The magnitude of a number or a truth value. -/
def magnitude? : Json → Option Magnitude
  | bool b => some (.exact (if b then 1 else 0) 0)
  | number (.int n) => some (.exact n 0)
  | number (.float .nan) => some .undefined
  | number (.float (.infinite negative)) => some (.infinite negative)
  | number (.float (.finite negative m e)) =>
    let n : Int := if negative then -(m : Int) else m
    some (if 0 ≤ e then .exact (n * Nat.pow 2 e.toNat) 0 else .exact n (-e).toNat)
  | _ => none

/-- Whether two magnitudes are the same. -/
def Magnitude.equal : Magnitude → Magnitude → Bool
  | exact a i, exact b j => decide (a * Nat.pow 2 j = b * Nat.pow 2 i)
  | a, b => a == b

/-- Whether two values are alike. -/
def alike : Json → Json → Bool
  | null, null => true
  | text s, text t => decide (s = t)
  | a, b =>
    match magnitude? a, magnitude? b with
    | some m, some n => m.equal n
    | _, _ => false

end Automation.Json
