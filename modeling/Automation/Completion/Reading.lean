import Automation.Chars.Blank
import Automation.Completion.Fence
import Automation.Completion.Span
import Automation.Json.Reader

/-!
# Reading completions

A completion is a text that should hold a document but may say other things as well. The fenced
blocks are tried first, then the object spans; the first one that is a document is the answer. A
completion with none is a failure, which is a result like any other. Only a document beyond a limit
ends the reading without a result.
-/

namespace Automation.Completion

variable [Limits]

/-- What is found in a completion. -/
inductive Finding where
  /-- A document. -/
  | value (v : Json)
  /-- No document, why, and how the completion begins. -/
  | failure (reason excerpt : Text)
  deriving DecidableEq, Repr

/-- How much of a completion without a document is told. -/
def excerptLength : Nat := 200

/-- The first of some texts that is a document. -/
def firstDocument : List Text → Except Json.Limit (Option Json)
  | [] => .ok none
  | text :: rest =>
    match Json.read text with
    | .ok v => .ok (some v)
    | .error (.malformed ..) => firstDocument rest
    | .error (.beyond limit) => .error limit

/-- The texts of a completion that may be documents, those in fences first. -/
def candidates (completion : Text) : List Text :=
  ((blocks completion).map Text.trim).filter (fun block => !block.isEmpty) ++ objectSpans completion

/-- What a completion holds. -/
def read (completion : Text) : Except Json.Limit Finding :=
  if completion.isBlank then .ok (.failure "empty response" [])
  else do
    match ← firstDocument (candidates completion) with
    | some v => return .value v
    | none => return .failure "no JSON object found" (completion.trim.take excerptLength)

end Automation.Completion
