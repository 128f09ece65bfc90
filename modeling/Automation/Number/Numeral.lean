import Automation.Chars.Blank
import Automation.Chars.Digit
import Automation.Number.Binary64

/-!
# Numerals in texts

Outside parties write numbers as text. `integer` reads the digits of any script, as a person would
write a step number; `plainInteger` and `plainFloat` read ASCII digits only, as a typed field of a
document is read. All of them allow space around the number and single underscores between digits,
and none reads more than `digitLimit` digits of an integer.

## Typed integers

`plainInteger` reads in three steps. The zeros and underscores at the beginning are dropped, then a
fraction of zeros at the end, then the underscores between digits; what is left has to be an integer
as documents write it. A plus sign may stand before all that. A minus sign may stand there as well,
or behind the zeros that are dropped, but not in both places.
-/

namespace Automation.Numeral

/-- The greatest number of digits of an integer that is read. -/
def digitLimit : Nat := 4300

/-- Space around a numeral: the blanks without the information separators. -/
def isSpace (c : CodePoint) : Bool :=
  Chars.isBlank c && !c.isBetween '\x1c' '\x1f'

/-- A text without the space around it. -/
def unspaced (t : Text) : Text :=
  ((t.dropWhile isSpace).reverse.dropWhile isSpace).reverse

/-- The value of an ASCII digit. -/
def asciiDigit (c : CodePoint) : Option Nat :=
  if c.isDigit then some (c.value - 0x30) else none

/-- The digits of a text that has nothing but digits, with single underscores between them.
`afterDigit` says whether a digit stands before the text. -/
def digits (value : CodePoint → Option Nat) : Bool → Text → Option (List Nat)
  | afterDigit, [] => if afterDigit then some [] else none
  | afterDigit, c :: rest =>
    if c = '_' then
      if afterDigit then digits value false rest else none
    else
      match value c with
      | some d => (digits value true rest).map (d :: ·)
      | none => none

/-- The number that digits write in base ten. -/
def ofDigits (ds : List Nat) : Nat :=
  ds.foldl (fun n d => 10 * n + d) 0

/-- Whether a text begins with a minus sign, and the text after its sign. -/
def signed : Text → Bool × Text
  | [] => (false, [])
  | c :: rest =>
    if c = '-' then (true, rest) else if c = '+' then (false, rest) else (false, c :: rest)

/-- A natural number with a sign. -/
def withSign (negative : Bool) (n : Nat) : Int :=
  if negative then -(n : Int) else n

/-- The integer that a text writes in the digits of any script. -/
def integer (t : Text) : Option Int :=
  let (negative, body) := signed (unspaced t)
  match digits Chars.digitValue false body with
  | some ds => if ds.length ≤ digitLimit then some (withSign negative (ofDigits ds)) else none
  | none => none

/-- The value of a run of ASCII digits. -/
def run (t : Text) : Nat :=
  ofDigits (t.filterMap asciiDigit)

/-! ### Typed integers -/

/-- Whether a number can begin with a code point that is no zero. -/
def startsNumber (c : CodePoint) : Bool :=
  c.isBetween '1' '9' || c == '-'

/-- The number behind zeros and underscores, the last of which is given. If nothing follows, or only
a fraction, that one belongs to the number. -/
def afterZeros (last : CodePoint) : Text → Option Text
  | [] => some [last]
  | c :: rest =>
    if c = '0' ∨ c = '_' then afterZeros c rest
    else if c = '.' then some (last :: c :: rest)
    else if startsNumber c then some (c :: rest)
    else none

/-- A number without the zeros it begins with. -/
def withoutZeros : Text → Option Text
  | [] => none
  | c :: rest =>
    if c = '0' then afterZeros c rest else if startsNumber c then some (c :: rest) else none

/-- A number without a fraction of zeros at its end. -/
def withoutFraction (t : Text) : Text :=
  let fraction := t.behind '.'
  if !fraction.isEmpty && (Text.without '0' fraction).isEmpty then t.before '.' else t

/-- Whether the underscores of a text all stand alone and between other code points. -/
def looseUnderscores (t : Text) : Bool :=
  t.head? != some '_' && t.getLast? != some '_'
    && (t.zip (t.drop 1)).all fun (a, b) => !(a == '_' && b == '_')

/-- A text without its underscores, if they all stand alone and between other code points. -/
def withoutUnderscores (t : Text) : Option Text :=
  if looseUnderscores t then some (t.without '_') else none

/-- The natural number that a text writes as documents do: a zero, or digits of which the first is
none. -/
def natural (t : Text) : Option Nat :=
  let leads := t.head? != some '0' || t.length == 1
  if !t.isEmpty && t.all CodePoint.isDigit && leads && decide (t.length ≤ digitLimit) then
    some (run t)
  else none

/-- The integer that a text writes as documents do. -/
def documentInteger : Text → Option Int
  | [] => none
  | c :: rest =>
    if c = '-' then (natural rest).map (withSign true)
    else (natural (c :: rest)).map (withSign false)

/-- The integer that a text writes in ASCII digits, with zeros before and behind it. -/
def plainInteger (t : Text) : Option Int := do
  let (negative, body) := signed (unspaced t)
  let digits ← withoutUnderscores (withoutFraction (← withoutZeros body))
  documentInteger (if negative then '-' :: digits else digits)

/-! ### Typed floating-point numbers -/

/-- A decimal number without its sign: digits, a point somewhere in or around them, an exponent. -/
def unsignedFloat (negative : Bool) (t : Text) : Option Binary64 :=
  let whole := t.takeWhile CodePoint.isDigit
  let rest := t.dropWhile CodePoint.isDigit
  let pointed := rest.head? == some '.'
  let fraction := if pointed then (rest.drop 1).takeWhile CodePoint.isDigit else []
  let rest := if pointed then (rest.drop 1).dropWhile CodePoint.isDigit else rest
  if whole.isEmpty && fraction.isEmpty then none
  else
    let number (exponent : Int) :=
      some (Binary64.ofDecimal negative (run (whole ++ fraction)) (exponent - fraction.length))
    match rest with
    | [] => number 0
    | e :: rest =>
      if e = 'e' ∨ e = 'E' then
        let (minus, power) := signed rest
        if power.isEmpty || !power.all CodePoint.isDigit then none
        else number (withSign minus (run power))
      else none

/-- The number that a text writes as a decimal, an infinity or a not-a-number. -/
def floatText (t : Text) : Option Binary64 :=
  let (negative, body) := signed t
  let name := Text.toLower body
  if name = "inf" ∨ name = "infinity" then some (.infinite negative)
  else if name = "nan" then some .nan
  else unsignedFloat negative body

/-- The floating-point number that a text writes, if need be after its underscores are dropped. -/
def plainFloat (t : Text) : Option Binary64 :=
  match floatText (unspaced t) with
  | some x => some x
  | none => (withoutUnderscores t).bind floatText

end Automation.Numeral
