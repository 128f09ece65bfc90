import Automation.Chars.Blank
import Automation.Chars.Printable
import Automation.Json.Printer

/-!
# Values as plain text

Where a value of a document stands in for a text, it is displayed: words for null and truth values,
a number as it is written, a text as it is. Inside a list or an object texts are quoted, with single
quotes unless only single quotes stand in them, and what is not printable is escaped.

`Json.asText` is the reading used for descriptions: null counts as the empty text, and lists and
objects are written as documents.
-/

namespace Automation.Json

/-- A floating-point number, with names in lower case for what is not finite. -/
def displayFloat : Binary64 → String
  | .nan => "nan"
  | .infinite negative => if negative then "-inf" else "inf"
  | x => writeFloat .plain x

/-- The escape of a code point inside a quoted text, by the shortest form that can hold it. -/
def displayEscape (c : CodePoint) : Text :=
  if c.value < 0x100 then '\\' :: 'x' :: hexDigits 2 c.value
  else if c.value < 0x10000 then escapeUnit c.value
  else '\\' :: 'U' :: hexDigits 8 c.value

/-- A code point inside a text quoted by a given quote. -/
def displayPoint (quote c : CodePoint) : Text :=
  if c = quote ∨ c = '\\' then ['\\', c]
  else if c = '\n' then ['\\', 'n']
  else if c = '\r' then ['\\', 'r']
  else if c = '\t' then ['\\', 't']
  else if Chars.isPrintable c then [c]
  else displayEscape c

/-- A text between quotes. -/
def displayQuoted (t : Text) : Text :=
  let quote : CodePoint := if t.contains '\'' && !t.contains '"' then '"' else '\''
  [quote] ++ t.flatMap (displayPoint quote) ++ [quote]

mutual

/-- A value as it is displayed inside a list or an object. -/
def displayInner : Json → Text
  | null => "None"
  | bool true => "True"
  | bool false => "False"
  | number (.int n) => writeInt n
  | number (.float x) => displayFloat x
  | text t => displayQuoted t
  | array items => "[" ++ Text.join ", " (displayItems items) ++ "]"
  | object members => "\x7b" ++ Text.join ", " (displayMembers members) ++ "\x7d"

/-- The items of a list. -/
def displayItems : List Json → List Text
  | [] => []
  | item :: rest => displayInner item :: displayItems rest

/-- The members of an object. -/
def displayMembers : List (Text × Json) → List Text
  | [] => []
  | (key, value) :: rest =>
    (displayQuoted key ++ ": " ++ displayInner value) :: displayMembers rest

end

/-- A value as it is displayed. -/
def display : Json → Text
  | text t => t
  | value => displayInner value

/-- A value in the place of a text: null is empty, lists and objects are documents of one line. How many
levels a document may have that is written is limited as it is for one that is read, a level or two apart;
that is left out here, where a value is what has been read before. -/
def asText : Json → Text
  | null => []
  | array items => write .plain (array items)
  | object members => write .plain (object members)
  | value => display value

end Automation.Json
