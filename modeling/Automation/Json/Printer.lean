import Automation.Json.Basic
import Automation.Number.Shortest

/-!
# Writing JSON

`Json.write` writes a value as a document. A `Style` says what the writers of documents differ in:
whether the items of arrays and objects stand on lines of their own, whether characters outside
ASCII are escaped, and how floating-point numbers are written. All styles write the same value: they
differ in layout and in spelling only, except that the record style has no words for infinities and
not-a-numbers and writes null for them.

A half of a surrogate pair stays one when it is written, unless the style escapes it.
-/

namespace Automation.Json

/-- How documents are written. -/
structure Style where
  /-- By what a level is indented; nothing for a document on one line. -/
  indent : Option Text
  /-- Whether all but the printable ASCII characters are escaped. -/
  ascii : Bool
  /-- How finite floating-point numbers are written. -/
  floats : Binary64.FloatSpelling
  /-- Whether infinities and not-a-numbers are written by name, and not as null. -/
  namesSpecials : Bool

namespace Style

/-- Exponents are written from 10¹⁶ on and below 10⁻⁴, with two digits at least. -/
def plainFloats : Binary64.FloatSpelling := ⟨-4, 2⟩

/-- Exponents are written from 10¹⁶ on and below 10⁻⁵, with as many digits as they have. -/
def recordFloats : Binary64.FloatSpelling := ⟨-5, 1⟩

/-- An indentation by two spaces. -/
def twoSpaces : Text := "  "

/-- One line, characters as they are. -/
def plain : Style := ⟨none, false, plainFloats, true⟩

/-- Indented lines or one line; characters as they are. -/
def indented (indent : Option Text) : Style := ⟨indent, false, plainFloats, true⟩

/-- One line of printable ASCII characters. -/
def asciiLine : Style := ⟨none, true, plainFloats, true⟩

/-- Indented lines of printable ASCII characters. -/
def asciiLines : Style := ⟨some twoSpaces, true, plainFloats, true⟩

/-- The style of records that are passed from one stage of planning to the next. -/
def record : Style := ⟨some twoSpaces, false, recordFloats, false⟩

/-- What stands between an opening bracket and the first item, at the level of the items. -/
def lineBreak (style : Style) (level : Nat) : Text :=
  match style.indent with
  | none => []
  | some unit => '\n' :: (List.replicate level unit).flatten

/-- What stands between two items. -/
def separator (style : Style) (level : Nat) : Text :=
  match style.indent with
  | none => ", "
  | some _ => ',' :: style.lineBreak level

end Style

/-! ### Texts -/

/-- The lower-case hexadecimal digits of a number, filled up with zeros to a width. -/
def hexDigits (width n : Nat) : Text :=
  let digits := (Nat.toDigits 16 n).map CodePoint.ofChar
  List.replicate (width - digits.length) (.ofChar '0') ++ digits

/-- The escape of a 16-bit unit. -/
def escapeUnit (unit : Nat) : Text :=
  '\\' :: 'u' :: hexDigits 4 unit

/-- The escape of a code point, if it has to be escaped. -/
def escape? (ascii : Bool) (c : CodePoint) : Option Text :=
  let n := c.value
  if n = 0x22 then some ['\\', '"']
  else if n = 0x5c then some ['\\', '\\']
  else if n = 0x8 then some ['\\', 'b']
  else if n = 0xc then some ['\\', 'f']
  else if n = 0xa then some ['\\', 'n']
  else if n = 0xd then some ['\\', 'r']
  else if n = 0x9 then some ['\\', 't']
  else if n < 0x20 then some (escapeUnit n)
  else if !ascii || n < 0x7f then none
  else if n < 0x10000 then some (escapeUnit n)
  else
    some (escapeUnit (0xd800 + (n - 0x10000) / 0x400)
      ++ escapeUnit (0xdc00 + (n - 0x10000) % 0x400))

/-- A text between quotes, with escapes where they are needed. -/
def quoted (ascii : Bool) (t : Text) : Text :=
  "\"" ++ (t.flatMap fun c => (escape? ascii c).getD [c]) ++ "\""

/-! ### Values -/

/-- The digits of an integer. -/
def writeInt (n : Int) : String :=
  String.ofList ((if n < 0 then ['-'] else []) ++ Nat.toDigits 10 n.natAbs)

/-- A floating-point number. -/
def writeFloat (style : Style) : Binary64 → String
  | .finite negative m e => String.ofList (Binary64.spellFinite style.floats negative m e)
  | .nan => if style.namesSpecials then "NaN" else "null"
  | .infinite negative =>
    if !style.namesSpecials then "null" else if negative then "-Infinity" else "Infinity"

/-- The items of an array or an object between its brackets. -/
def bracketed (style : Style) (level : Nat) (left right : String) : List Text → Text
  | [] => left ++ right
  | items =>
    left ++ style.lineBreak (level + 1) ++ Text.join (style.separator (level + 1)) items
      ++ style.lineBreak level ++ right

mutual

/-- A value as it stands at a level of a document. -/
def writeAt (style : Style) (level : Nat) : Json → Text
  | null => "null"
  | bool true => "true"
  | bool false => "false"
  | number (.int n) => writeInt n
  | number (.float x) => writeFloat style x
  | text t => quoted style.ascii t
  | array items => bracketed style level "[" "]" (writeItems style (level + 1) items)
  | object members =>
    bracketed style level "\x7b" "\x7d" (writeMembers style (level + 1) members)

/-- The items of an array. -/
def writeItems (style : Style) (level : Nat) : List Json → List Text
  | [] => []
  | item :: rest => writeAt style level item :: writeItems style level rest

/-- The members of an object. -/
def writeMembers (style : Style) (level : Nat) : List (Text × Json) → List Text
  | [] => []
  | (key, value) :: rest =>
    (quoted style.ascii key ++ ": " ++ writeAt style level value)
      :: writeMembers style level rest

end

/-- A value as a document. -/
def write (style : Style) (value : Json) : Text :=
  writeAt style 0 value

end Automation.Json
