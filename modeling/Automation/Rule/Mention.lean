import Automation.Chars.Case
import Automation.Chars.Word

/-!
# Mentions

A text mentions a keyword if the keyword occurs in it between two edges of words, without regard to
case. An edge lies where exactly one of two neighbours is a word character; the ends of the text
count as neighbours that are none. The empty keyword occurs wherever there is an edge.

## Endings

Several keywords that differ in their last letter only are one word with a choice of endings. An
ending of the supplementary planes is found only in its lower-case form there, so that a capital
letter among the endings is not found at all.
-/

namespace Automation.Mention

/-- Whether an ending stands for a letter of a text. -/
def endsWith (ending c : CodePoint) : Bool :=
  if ending.value < 0x10000 then Chars.sameLetter ending c else Chars.lowerPoint c == ending

/-- Whether a text begins with a keyword, and a word ends or begins right after it. `before` is the
code point in front of the text, and `choice` says whether the last letter is one of several
endings. -/
def startsWith (choice : Bool) (before : Option CodePoint) : Text → Text → Bool
  | [], rest => Chars.isWordEdge before rest.head?
  | _ :: _, [] => false
  | k :: keyword, c :: rest =>
    (if choice && keyword.isEmpty then endsWith k c else Chars.sameLetter k c)
      && startsWith choice (some c) keyword rest

/-- Whether one of some keywords stands at the beginning of a text. -/
def here (choice : Bool) (keywords : List Text) (before : Option CodePoint) (text : Text) : Bool :=
  Chars.isWordEdge before text.head? && keywords.any fun k => startsWith choice before k text

/-- Whether one of some keywords stands somewhere in a text. -/
def somewhere (choice : Bool) (keywords : List Text) (before : Option CodePoint) : Text → Bool
  | [] => here choice keywords before []
  | c :: rest =>
    here choice keywords before (c :: rest) || somewhere choice keywords (some c) rest

/-- The beginning that two texts share. -/
def shared : Text → Text → Text
  | a :: s, b :: t => if a = b then a :: shared s t else []
  | _, _ => []

/-- Whether several keywords differ in their last letter only. -/
def isChoice : List Text → Bool
  | first :: second :: rest =>
    let start := (second :: rest).foldl shared first
    (first :: second :: rest).all fun k => k.length == start.length + 1
  | _ => false

end Automation.Mention

namespace Automation

/-- Whether a text mentions one of some keywords. Without keywords any word is a mention. -/
def mentionsAny (keywords : List Text) (text : Text) : Bool :=
  let keywords := if keywords.isEmpty then [[]] else keywords
  Mention.somewhere (Mention.isChoice keywords) keywords none text

end Automation
