import Automation.Number.Shortest

/-!
# Numbers

A number of a document is an integer of any size or a floating-point number. The two are never
confused: `1` and `1.0` are different values and are written differently.
-/

namespace Automation

/-- An integer or a floating-point number. -/
inductive Number where
  /-- An integer. -/
  | int (n : Int)
  /-- A floating-point number. -/
  | float (x : Binary64)
  deriving DecidableEq, Repr, Inhabited

namespace Number

/-- Whether a number is zero. -/
def isZero : Number → Bool
  | int n => n == 0
  | float x => x.isZero

/-- Whether a number is above zero. -/
def isPositive : Number → Bool
  | int n => decide (0 < n)
  | float x => x.isPositive

/-- Whether a number is below zero. -/
def isNegative : Number → Bool
  | int n => decide (n < 0)
  | float x => x.isNegative

/-- A number that a floating-point number can be made of: integers have to be in the range. -/
def toFloat? : Number → Option Binary64
  | int n =>
    match Binary64.ofInt n with
    | .infinite _ => none
    | x => some x
  | float x => some x

/-- A number doubled `k` times, or halved for a negative `k`. Halving makes a floating-point number
of an integer. Nothing if an integer, be it the number or the factor, is beyond the range of the
floating-point numbers. -/
def double : Number → Int → Option Number
  | int n, k =>
    if 0 ≤ k then
      let product := int (n * Nat.pow 2 k.toNat)
      product.toFloat?.map fun _ => product
    else (toFloat? (int n)).map fun x => float (x.timesPower k)
  | float x, k => if 1024 ≤ k then none else some (float (x.timesPower k))

end Number

end Automation
