import Automation.Failure
import Automation.Json.Display
import Automation.Record

/-!
# Settings of completion services

A service is set up from the members of an object. Settings are handed on as they are given. One
that is missing or empty, or a zero, counts as not given, and a default stands in for it.
-/

namespace Automation

namespace Members

/-- The value of a setting, or its default. -/
def setting (members : Members) (name : String) (default : Json) : Json :=
  match members.get? name with
  | some value => if value.isTruthy then value else default
  | none => default

/-- Whether all settings have one of some names. -/
def onlyNames (members : Members) (names : List Text) : Bool :=
  (members.without names).isEmpty

end Members

namespace Completion

/-- The default time limit of a call in seconds. -/
def defaultTimeout : Json := .float (.ofInt 120)

/-- What is told of a call that took too long. -/
def timedOut (timeout : Json) : Failure :=
  .transport ("Completion request timed out after " ++ timeout.display ++ "s")

/-- The text that a service gave, which has to be one. -/
def givenText (value : Json) : Except Failure Text :=
  match value.text? with
  | some text => .ok text
  | none => .error (.invalid ["text"])

end Completion

end Automation
