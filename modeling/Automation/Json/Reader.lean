import Automation.Json.Basic
import Automation.Limits
import Automation.Number.Numeral

/-!
# Reading JSON

`Json.read` reads a text that is one document. Beside the values of the standard it knows `NaN`,
`Infinity` and `-Infinity`. Between the parts of a document a space, a tab, a line feed or a
carriage return may stand; no other blank may.

## Faults

Reading goes from left to right and ends at the first fault. Malformed text has a flaw at a place,
which is told by how much of the text is left there. Apart from that there are two limits: values
nest at most `Limits.nesting` levels deep, which is up to the platform, and an integer has at most
`Numeral.digitLimit` digits. A number with a fraction or an exponent may have any number of digits.

## Texts

An escape names one 16-bit unit. Two escapes that name the halves of a surrogate pair are one
character; a half that stands alone stays in the text.
-/

namespace Automation.Json

/-- A limit that a document exceeds. -/
inductive Limit where
  /-- Values nest too deeply. -/
  | depth
  /-- An integer has too many digits. -/
  | digits (count : Nat)
  deriving DecidableEq, Repr

/-- What is wrong with a malformed text. -/
inductive Flaw where
  /-- There is no value. -/
  | noValue
  /-- There is no key of a member. -/
  | noKey
  /-- There is no colon behind a key. -/
  | noColon
  /-- There is neither a comma nor the end of an array or an object. -/
  | noComma
  /-- A text has no end. -/
  | openText
  /-- A control character stands in a text. -/
  | control
  /-- An escape does not exist. -/
  | escape
  /-- An escape has not four hexadecimal digits. -/
  | unitEscape
  /-- There is more behind the document. -/
  | excess
  /-- A byte order mark stands before the document. -/
  | mark
  deriving DecidableEq, Repr

/-- Why a text is not read as a document. -/
inductive Fault where
  /-- The text does not follow the grammar, at a place with a number of code points left. -/
  | malformed (flaw : Flaw) (left : Nat)
  /-- The text exceeds a limit. -/
  | beyond (limit : Limit)
  deriving DecidableEq, Repr

/-- A reader takes the text in front of it and gives a fault, or a result and the rest of the text.
-/
abbrev Reader (α : Type) := Text → Except Fault (α × Text)

/-- A flaw at the beginning of a text. -/
def flawAt {α : Type} (flaw : Flaw) (t : Text) : Except Fault α :=
  .error (.malformed flaw t.length)

/-- Whether a code point may stand between the parts of a document. -/
def isSpace (c : CodePoint) : Bool :=
  c == ' ' || c == '\t' || c == '\n' || c == '\r'

/-- A text without the space it begins with. -/
def skipSpace (t : Text) : Text :=
  t.dropWhile isSpace

/-! ### Texts -/

/-- The value of a hexadecimal digit. -/
def hexValue (c : CodePoint) : Option Nat :=
  if c.isDigit then some (c.value - 0x30)
  else if c.isBetween 'a' 'f' then some (c.value - 0x61 + 10)
  else if c.isBetween 'A' 'F' then some (c.value - 0x41 + 10)
  else none

/-- The value of four hexadecimal digits. -/
def hexUnit (a b c d : CodePoint) : Option Nat := do
  let a ← hexValue a
  let b ← hexValue b
  let c ← hexValue c
  let d ← hexValue d
  return ((a * 16 + b) * 16 + c) * 16 + d

/-- The code point that a one-letter escape names. -/
def escaped? (c : CodePoint) : Option CodePoint :=
  if c = '"' ∨ c = '\\' ∨ c = '/' then some c
  else if c = 'b' then some (.ofNat 0x8)
  else if c = 'f' then some (.ofNat 0xc)
  else if c = 'n' then some '\n'
  else if c = 'r' then some '\r'
  else if c = 't' then some '\t'
  else none

/-- A code point of a text, and whether it was named as a 16-bit unit. -/
structure Written where
  /-- The code point. -/
  point : CodePoint
  /-- Whether it was named as a unit. -/
  asUnit : Bool
  deriving DecidableEq, Repr

/-- Code points with the halves of pairs joined that were named side by side. -/
def joinPairs : List Written → Text
  | a :: b :: rest =>
    if a.asUnit && b.asUnit && a.point.isHighHalf && b.point.isLowHalf then
      .joinHalves a.point b.point :: joinPairs rest
    else a.point :: joinPairs (b :: rest)
  | written => written.map Written.point

/-- The code points of a text after its opening quote, and what follows its closing quote. A text
without an end is at fault where it begins; the argument is its rest there. -/
def readPoints (opening : Text) : Reader (List Written)
  | [] => flawAt .openText opening
  | c :: rest =>
    if c = '"' then .ok ([], rest)
    else if c = '\\' then
      match rest with
      | [] => flawAt .openText opening
      | e :: rest =>
        if e = 'u' then
          match rest with
          | a :: b :: x :: d :: rest =>
            match hexUnit a b x d, rest with
            | some n, _ :: _ =>
              (readPoints opening rest).map fun (ws, rest) => (⟨.ofNat n, true⟩ :: ws, rest)
            | _, _ => flawAt .unitEscape (e :: a :: b :: x :: d :: rest)
          | rest => flawAt .unitEscape (e :: rest)
        else
          match escaped? e with
          | some p => (readPoints opening rest).map fun (ws, rest) => (⟨p, false⟩ :: ws, rest)
          | none => flawAt .escape (c :: e :: rest)
    else if c.value < 0x20 then flawAt .control (c :: rest)
    else (readPoints opening rest).map fun (ws, rest) => (⟨c, false⟩ :: ws, rest)

/-- A text that begins with a given quote. -/
def readText (quote : CodePoint) : Reader Text := fun t =>
  (readPoints (quote :: t) t).map fun (written, rest) => (joinPairs written, rest)

/-! ### Numbers -/

/-- The whole part of a number: a zero, or digits that begin with no zero. -/
def wholePart (t : Text) : Text :=
  if t.head? = some '0' then ['0'] else t.takeWhile CodePoint.isDigit

/-- The fraction a text begins with: a point and at least one digit. -/
def fractionPart : Text → Text
  | [] => []
  | c :: rest => if c = '.' then rest.takeWhile CodePoint.isDigit else []

/-- The exponent a text begins with: a mark, perhaps a sign, and at least one digit. -/
def exponentPart : Text → Option (Int × Text)
  | [] => none
  | c :: rest =>
    if c = 'e' ∨ c = 'E' then
      let (negative, power) := Numeral.signed rest
      let digits := power.takeWhile CodePoint.isDigit
      if digits.isEmpty then none
      else some (Numeral.withSign negative (Numeral.run digits), power.dropWhile CodePoint.isDigit)
    else none

/-- A number. -/
def readNumber : Reader Number := fun t =>
  let negative := t.head? == some '-'
  let body := if negative then t.drop 1 else t
  let whole := wholePart body
  if whole.isEmpty then flawAt .noValue t
  else
    let rest := body.drop whole.length
    let fraction := fractionPart rest
    let rest := if fraction.isEmpty then rest else rest.drop (fraction.length + 1)
    match exponentPart rest with
    | some (power, rest) =>
      let digits := Numeral.run (whole ++ fraction)
      .ok (.float (.ofDecimal negative digits (power - fraction.length)), rest)
    | none =>
      if !fraction.isEmpty then
        let digits := Numeral.run (whole ++ fraction)
        .ok (.float (.ofDecimal negative digits (-(fraction.length : Int))), rest)
      else if Numeral.digitLimit < whole.length then .error (.beyond (.digits whole.length))
      else .ok (.int (Numeral.withSign negative (Numeral.run whole)), rest)

/-! ### Values -/

/-- The words that stand for values. -/
def words : List (Text × Json) := [
  ("null", null), ("true", bool true), ("false", bool false), ("NaN", float .nan),
  ("Infinity", float (.infinite false)), ("-Infinity", float (.infinite true))]

/-- The word a text begins with, as its value, and the rest. -/
def readWord (t : Text) : Option (Json × Text) :=
  words.findSome? fun (word, value) =>
    if word.isPrefixOf t then some (value, t.drop word.length) else none

/-- A value that is neither array nor object. -/
def readLeaf : Reader Json := fun t =>
  match readWord t with
  | some result => .ok result
  | none =>
    match t with
    | [] => flawAt .noValue []
    | c :: rest =>
      if c = '"' then (readText c rest).map fun (t, rest) => (text t, rest)
      else (readNumber t).map fun (n, rest) => (number n, rest)

/-- The items of an array from the first one on, up to the closing bracket. The first argument
reads one item, the second bounds the number of items. -/
def readItems (item : Reader Json) : Nat → Reader (List Json)
  | 0, t => flawAt .noValue t
  | bound + 1, t => do
    let (value, rest) ← item t
    match skipSpace rest with
    | [] => flawAt .noComma []
    | c :: rest =>
      if c = ']' then .ok ([value], rest)
      else if c = ',' then
        let (values, rest) ← readItems item bound (skipSpace rest)
        .ok (value :: values, rest)
      else flawAt .noComma (c :: rest)

/-- One member of an object: a key, a colon and a value. -/
def readMember (item : Reader Json) : Reader (Text × Json)
  | [] => flawAt .noKey []
  | c :: rest =>
    if c = '"' then do
      let (key, rest) ← readText c rest
      match skipSpace rest with
      | [] => flawAt .noColon []
      | c :: rest =>
        if c = ':' then
          let (value, rest) ← item (skipSpace rest)
          .ok ((key, value), rest)
        else flawAt .noColon (c :: rest)
    else flawAt .noKey (c :: rest)

/-- The members of an object from the first one on, up to the closing brace. -/
def readMembers (item : Reader Json) : Nat → Reader Members
  | 0, t => flawAt .noKey t
  | bound + 1, t => do
    let (first, rest) ← readMember item t
    match skipSpace rest with
    | [] => flawAt .noComma []
    | c :: rest =>
      if c = '\x7d' then .ok ([first], rest)
      else if c = ',' then
        let (members, rest) ← readMembers item bound (skipSpace rest)
        .ok (first :: members, rest)
      else flawAt .noComma (c :: rest)

/-- An array after its opening bracket. -/
def readArray (item : Reader Json) : Reader Json := fun t =>
  match skipSpace t with
  | [] => flawAt .noValue []
  | c :: rest =>
    if c = ']' then .ok (array [], rest)
    else (readItems item (rest.length + 1) (c :: rest)).map fun (items, rest) => (array items, rest)

/-- An object after its opening brace. A key that comes again replaces the value it had. -/
def readObject (item : Reader Json) : Reader Json := fun t =>
  match skipSpace t with
  | [] => flawAt .noKey []
  | c :: rest =>
    if c = '\x7d' then .ok (object [], rest)
    else
      (readMembers item (rest.length + 1) (c :: rest)).map fun (members, rest) =>
        (object (Members.putAll [] members), rest)

/-- A value with at most a given number of levels. -/
def readValue : Nat → Reader Json
  | 0, t =>
    if t.head? = some '[' ∨ t.head? = some '\x7b' then .error (.beyond .depth) else readLeaf t
  | depth + 1, t =>
    match t with
    | [] => flawAt .noValue []
    | c :: rest =>
      if c = '[' then readArray (readValue depth) rest
      else if c = '\x7b' then readObject (readValue depth) rest
      else readLeaf t

/-- The document that a text is, given how many levels it may have. -/
def readWithin (depth : Nat) (t : Text) : Except Fault Json := do
  if t.head? = some '\ufeff' then flawAt .mark t
  else
    let (value, rest) ← readValue depth (skipSpace t)
    match skipSpace rest with
    | [] => .ok value
    | rest => flawAt .excess rest

/-- The document that a text is, with as many levels as the platform allows. -/
def read [Limits] (t : Text) : Except Fault Json :=
  readWithin Limits.nesting t

/-! ### Messages -/

/-- What is told of a flaw. -/
def Flaw.message : Flaw → String
  | noValue => "Expecting value"
  | noKey => "Expecting property name enclosed in double quotes"
  | noColon => "Expecting ':' delimiter"
  | noComma => "Expecting ',' delimiter"
  | openText => "Unterminated string starting at"
  | control => "Invalid control character at"
  | escape => "Invalid \\escape"
  | unitEscape => "Invalid \\uXXXX escape"
  | excess => "Extra data"
  | mark => "Unexpected UTF-8 BOM (decode using utf-8-sig)"

/-- What is told of a flaw in a text and its place: the line, the place in the line and the place in
the text, the latter counted from zero. -/
def Flaw.messageIn (flaw : Flaw) (t : Text) (left : Nat) : String :=
  let before := t.take (t.length - left)
  let line := (before.filter fun (c : CodePoint) => c == '\n').length + 1
  let column := (Text.before '\n' before.reverse).length + 1
  flaw.message ++ ": line " ++ toString line ++ " column " ++ toString column ++ " (char "
    ++ toString before.length ++ ")"

end Automation.Json
