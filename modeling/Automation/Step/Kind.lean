import Automation.Chars.Blank
import Automation.Chars.Case
import Automation.Json.Basic

/-!
# Kinds of steps

The role a step plays in an automation. Kinds are read generously: spelling may differ in case and
in blanks, underscores and hyphens, and what names no kind is an ordinary process.
-/

namespace Automation

/-- The role of a step. -/
inductive StepKind where
  /-- Starts the automation. -/
  | trigger
  /-- Works on data. -/
  | process
  /-- Does something outside. -/
  | action
  /-- Decides. -/
  | logic
  /-- Changes the shape of data. -/
  | transform
  /-- Is followed when the step before it fails. -/
  | errorHandler
  deriving DecidableEq, Repr, Inhabited

namespace StepKind

/-- All kinds. -/
def all : List StepKind := [trigger, process, action, logic, transform, errorHandler]

/-- The name by which a kind is written. -/
def name : StepKind → String
  | trigger => "Trigger"
  | process => "Process"
  | action => "Action"
  | logic => "Logic"
  | transform => "Transform"
  | errorHandler => "Error Handler"

/-- Whether a code point makes no difference in the name of a kind. -/
def isFiller (c : CodePoint) : Bool :=
  Chars.isBlank c || c == '_' || c == '-'

/-- A name with fillers and case taken out. -/
def bareName (name : Text) : Text :=
  Text.lower (name.filter fun c => !isFiller c)

/-- The kind that a text names. -/
def ofText (t : Text) : StepKind :=
  (all.find? fun kind => bareName kind.name = bareName t).getD process

/-- The kind that a value names. -/
def ofJson : Json → StepKind
  | .text t => ofText t
  | _ => process

end StepKind

end Automation
