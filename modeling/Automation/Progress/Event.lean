import Automation.Record

/-!
# Progress events

What is told while a workflow is generated. Whoever wants to be told hands in a listener. A listener
may fail; that is nobody else's concern, and the next event is told as if nothing had happened.
-/

namespace Automation

/-- Something that is told of a run. -/
structure ProgressEvent where
  /-- The stage of the run. -/
  stage : Text
  /-- What goes on. -/
  message : Text
  /-- How far the run has come, in percent. -/
  progress : Int
  deriving DecidableEq, Repr

/-- Someone who is told of events, and may fail at it. -/
abbrev Listener := ProgressEvent → Except Text Unit

namespace ProgressEvent

/-- An event as a document. -/
def toJson (e : ProgressEvent) : Json :=
  .ofFields [("stage", e.stage), ("message", e.message), ("progress", .int e.progress)]

/-- An event from the members of a document. -/
def ofMembers (members : Members) : Checked ProgressEvent :=
  ProgressEvent.mk <$> members.required ["stage"] (.leaf Json.text?)
    <*> members.required ["message"] (.leaf Json.text?)
    <*> members.required ["progress"] (.leaf Json.int?)

/-- An event from a document. -/
def check : Json → Checked ProgressEvent :=
  Json.record ofMembers

end ProgressEvent

namespace Listener

/-- A listener that only listens. -/
def quiet : Listener := fun _ => .ok ()

/-- A listener that fails at every event. -/
def failing : Listener := fun event => .error event.message

end Listener

end Automation
