import Automation.Number.Binary64

/-!
# Shortest decimal text

A binary number is written with the fewest decimal digits that read back as the same number. The
reals that round to `m · 2 ^ e` form an interval, which contains its ends exactly if `m` is even.
For one digit, two digits, and so on up to seventeen, the two neighbours of the number on that
decimal grid are tested against the interval; the first grid with a neighbour inside decides, the
nearer neighbour wins, and a tie goes to the even digit.

## Spelling

Where positional notation ends and how an exponent is written is up to the format that is written:
`FloatSpelling` records it, and `spell` follows the record.
-/

namespace Automation.Binary64

/-- The interval of reals that round to a positive number, over a common denominator. -/
structure Rounding where
  /-- The lower end. -/
  low : Nat
  /-- The number. -/
  value : Nat
  /-- The upper end. -/
  high : Nat
  /-- The denominator of the three. -/
  denominator : Nat
  /-- Whether the ends belong to the interval. -/
  closed : Bool

/-- The reals that round to `m · 2 ^ e`. Below the least mantissa the neighbour is at half the
distance, unless the exponent is the least one. -/
def rounding (m : Nat) (e : Int) : Rounding :=
  let narrow := m = leadingBit ∧ minExponent < e
  let up := if 0 ≤ e then Nat.pow 2 e.toNat else 1
  let down := if 0 ≤ e then 1 else Nat.pow 2 (-e).toNat
  { low := (if narrow then 4 * m - 1 else 4 * m - 2) * up
    value := 4 * m * up
    high := (4 * m + 2) * up
    denominator := 4 * down
    closed := m % 2 = 0 }

/-- Whether `digits · 10 ^ k` lies in the interval. -/
def Rounding.holds (r : Rounding) (digits : Nat) (k : Int) : Bool :=
  let n := digits * r.denominator * (if 0 ≤ k then Nat.pow 10 k.toNat else 1)
  let s := if 0 ≤ k then 1 else Nat.pow 10 (-k).toNat
  if r.closed then decide (r.low * s ≤ n) && decide (n ≤ r.high * s)
  else decide (r.low * s < n) && decide (n < r.high * s)

/-- The number `p` with `10 ^ (p - 1) ≤ a / b < 10 ^ p`, for a quotient that is no negative power of
ten. -/
def decimalWidth (a b : Nat) : Int :=
  if b ≤ a then (Nat.toDigits 10 (a / b)).length
  else 1 - ((Nat.toDigits 10 (b / a)).length : Int)

/-- The neighbour of the number on the grid of multiples of `10 ^ k` that rounds to the number: the
nearer one if both do, the even one in a tie. -/
def Rounding.neighbour (r : Rounding) (k : Int) : Option Nat :=
  let a := r.value * (if 0 ≤ k then 1 else Nat.pow 10 (-k).toNat)
  let b := r.denominator * (if 0 ≤ k then Nat.pow 10 k.toNat else 1)
  let below := a / b
  match r.holds below k, r.holds (below + 1) k with
  | true, true => some (divNearest a b)
  | true, false => some below
  | false, true => some (below + 1)
  | false, false => none

/-- The first grid with a neighbour inside, counting grids from `digits` significant digits on; the
count of tries left bounds the search. -/
def Rounding.search (r : Rounding) (width : Int) : Nat → Nat → Nat × Int
  | 0, digits => (r.value / r.denominator, width - digits)
  | tries + 1, digits =>
    match r.neighbour (width - digits) with
    | some n => (n, width - digits)
    | none => r.search width tries (digits + 1)

/-- The shortest digits of `m · 2 ^ e`, and the power of ten that stands before the first digit: the
pair `([d₁, …, dₙ], p)` is the number `0.d₁…dₙ · 10 ^ p`. -/
def shortest (m : Nat) (e : Int) : List Char × Int :=
  let r := rounding m e
  let (n, k) := r.search (decimalWidth r.value r.denominator) 17 1
  let digits := Nat.toDigits 10 n
  let significant := (digits.reverse.dropWhile (· == '0')).reverse
  (significant, k + digits.length)

/-- How a format writes floating-point numbers. -/
structure FloatSpelling where
  /-- The least decimal exponent that is written positionally. -/
  least : Int
  /-- The width to which exponents are filled up with zeros. -/
  exponentWidth : Nat

/-- The decimal exponent from which on no format here writes positionally. -/
def exponentLimit : Int := 16

/-- Digits with a point after the first `p`, and a zero where a side of the point would be empty. -/
def positional (digits : List Char) (p : Int) : List Char :=
  if p ≤ 0 then
    ['0', '.'] ++ List.replicate (-p).toNat '0' ++ digits
  else
    let whole := digits.take p.toNat
    let fraction := digits.drop p.toNat
    whole ++ List.replicate (p.toNat - whole.length) '0'
      ++ '.' :: (if fraction.isEmpty then ['0'] else fraction)

/-- Digits with a point after the first one, if there are more, and an exponent with its sign. -/
def scientific (spelling : FloatSpelling) (digits : List Char) (x : Int) : List Char :=
  let power := Nat.toDigits 10 x.natAbs
  digits.take 1
    ++ (if (digits.drop 1).isEmpty then [] else '.' :: digits.drop 1)
    ++ ['e', if x < 0 then '-' else '+']
    ++ List.replicate (spelling.exponentWidth - power.length) '0' ++ power

/-- The text of the finite number `± m · 2 ^ e`. -/
def spellFinite (spelling : FloatSpelling) (negative : Bool) (m : Nat) (e : Int) : List Char :=
  let body :=
    if m = 0 then ['0', '.', '0']
    else
      let (digits, p) := shortest m e
      if spelling.least ≤ p - 1 ∧ p - 1 < exponentLimit then positional digits p
      else scientific spelling digits (p - 1)
  if negative then '-' :: body else body

end Automation.Binary64
