import Automation.Text

/-!
# Object spans

A span is a piece of a text from an opening brace to the brace that closes it. Braces between the
quotes of a text inside a span do not count; a backslash keeps the character after it from ending
such a text. Outside of spans quotes and closing braces mean nothing. Spans do not overlap, and a
span inside another one is not listed.
-/

namespace Automation.Completion

/-- Where a scanner stands in a text. -/
inductive ScanMode where
  /-- Between texts. -/
  | plain
  /-- Between the quotes of a text. -/
  | quoted
  /-- Right after a backslash between quotes. -/
  | escaped
  deriving DecidableEq, Repr

/-- What a scanner knows. -/
structure Scan where
  /-- How many braces are open. -/
  depth : Nat
  /-- Where it stands. -/
  mode : ScanMode
  deriving DecidableEq, Repr

namespace Scan

/-- A scanner outside of all spans. -/
def outside : Scan := ⟨0, .plain⟩

/-- A scanner after one more code point. -/
def next (s : Scan) (c : CodePoint) : Scan :=
  match s.mode with
  | .escaped => { s with mode := .quoted }
  | .quoted =>
    if c = '\\' then { s with mode := .escaped }
    else if c = '"' then { s with mode := .plain }
    else s
  | .plain =>
    if c = '"' then if s.depth = 0 then s else { s with mode := .quoted }
    else if c = '\x7b' then { s with depth := s.depth + 1 }
    else if c = '\x7d' then { s with depth := s.depth - 1 }
    else s

end Scan

/-- The spans of the rest of a text; `current` is what has been read of a span that is open,
backwards. -/
def spansFrom (s : Scan) (current : Text) : Text → List Text
  | [] => []
  | c :: rest =>
    let t := s.next c
    if t.depth ≠ 0 then spansFrom t (c :: current) rest
    else if s.depth ≠ 0 then (c :: current).reverse :: spansFrom t [] rest
    else spansFrom t [] rest

/-- The spans of a text, in order. -/
def objectSpans (text : Text) : List Text :=
  spansFrom .outside [] text

end Automation.Completion
