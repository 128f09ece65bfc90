/-!
# Binary floating-point numbers

The numbers of the 64-bit binary format: a sign, a mantissa below 2⁵³ and a power of two, two
infinities and one not-a-number. `Binary64.round` takes an exact quotient to the nearest of them, a
tie to the even mantissa; everything that makes a number from decimal text or from an integer goes
through it, so no value is ever rounded twice.

## Canonical form

A finite number has exactly one form: either its mantissa is at least 2⁵², or its exponent is the
least one, -1074. `round` produces this form, so equality of values is equality of forms, except
that the two zeros differ.
-/

namespace Automation

/-- A number of the 64-bit binary format. -/
inductive Binary64 where
  /-- Not a number. -/
  | nan
  /-- An infinity. -/
  | infinite (negative : Bool)
  /-- The number `± mantissa · 2 ^ exponent`. -/
  | finite (negative : Bool) (mantissa : Nat) (exponent : Int)
  deriving DecidableEq, Repr, Inhabited

namespace Binary64

/-- The least exponent. -/
def minExponent : Int := -1074

/-- The greatest exponent. -/
def maxExponent : Int := 971

/-- The least mantissa of a number whose exponent is not the least one. -/
def leadingBit : Nat := Nat.pow 2 52

/-- A zero. -/
def zero (negative : Bool) : Binary64 :=
  finite negative 0 minExponent

/-- The quotient of two numbers, rounded to the nearest integer, a tie to the even one. -/
def divNearest (a b : Nat) : Nat :=
  let q := a / b
  let r := a % b
  if 2 * r < b then q
  else if b < 2 * r then q + 1
  else if q % 2 = 0 then q else q + 1

/-- The quotient `a / b / 2 ^ e`, as a numerator and a denominator. -/
def scaled (a b : Nat) (e : Int) : Nat × Nat :=
  if 0 ≤ e then (a, b * Nat.pow 2 e.toNat) else (a * Nat.pow 2 (-e).toNat, b)

/-- The exponent at which a positive quotient has a mantissa of 53 bits, or the least exponent. -/
def exponentFor (a b : Nat) : Int :=
  let guess : Int := (a.log2 : Int) - (b.log2 : Int) - 53
  let (n, d) := scaled a b guess
  max minExponent (if n / d < Nat.pow 2 53 then guess else guess + 1)

/-- The number nearest to `± a / b`, for a positive `b`. -/
def round (negative : Bool) (a b : Nat) : Binary64 :=
  if a = 0 then zero negative
  else
    let e := exponentFor a b
    let (n, d) := scaled a b e
    let m := divNearest n d
    let (m, e) := if m = Nat.pow 2 53 then (leadingBit, e + 1) else (m, e)
    if maxExponent < e then infinite negative else finite negative m e

/-- The number nearest to `± digits · 10 ^ exponent`. Exponents beyond the range of the format are
decided from the number of digits, without forming the power. -/
def ofDecimal (negative : Bool) (digits : Nat) (exponent : Int) : Binary64 :=
  if digits = 0 then zero negative
  else
    let width : Int := (Nat.toDigits 10 digits).length
    if 310 < exponent + width then infinite negative
    else if exponent + width < -330 then zero negative
    else if 0 ≤ exponent then round negative (digits * Nat.pow 10 exponent.toNat) 1
    else round negative digits (Nat.pow 10 (-exponent).toNat)

/-- The number nearest to an integer. -/
def ofInt (n : Int) : Binary64 :=
  round (decide (n < 0)) n.natAbs 1

/-- Whether a number is one of the zeros. -/
def isZero : Binary64 → Bool
  | finite _ 0 _ => true
  | _ => false

/-- Whether a number is above zero. -/
def isPositive : Binary64 → Bool
  | finite false (_ + 1) _ => true
  | infinite false => true
  | _ => false

/-- Whether a number is below zero. -/
def isNegative : Binary64 → Bool
  | finite true (_ + 1) _ => true
  | infinite true => true
  | _ => false

/-- The integer part of the finite number `± m · 2 ^ e`. -/
def truncated (negative : Bool) (m : Nat) (e : Int) : Int :=
  let n : Nat := if 0 ≤ e then m * Nat.pow 2 e.toNat else m / Nat.pow 2 (-e).toNat
  if negative then -(n : Int) else n

/-- Whether the finite number `m · 2 ^ e` is an integer. -/
def isWhole (m : Nat) (e : Int) : Bool :=
  decide (0 ≤ e) || m % Nat.pow 2 (-e).toNat == 0

/-- The integer that a number equals, if it equals one. -/
def toInt? : Binary64 → Option Int
  | finite negative m e => if isWhole m e then some (truncated negative m e) else none
  | _ => none

/-- A number times the power of two with an exponent, where a power too small for the format is
zero: of an infinity it makes what is no number. -/
def timesPower : Binary64 → Int → Binary64
  | finite negative m e, k =>
    if k < minExponent then zero negative
    else if 0 ≤ e + k then round negative (m * Nat.pow 2 (e + k).toNat) 1
    else round negative m (Nat.pow 2 (-(e + k)).toNat)
  | infinite negative, k => if k < minExponent then nan else infinite negative
  | nan, _ => nan

end Binary64

end Automation
