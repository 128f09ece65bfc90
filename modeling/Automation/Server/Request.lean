import Automation.Record
import Automation.Chars.Blank

/-!
# Requests for workflows

Whoever asks for a workflow sends a task. The blanks around it do not count, and something has to be
left of it.
-/

namespace Automation

/-- A request for a workflow. -/
structure GenerateRequest where
  /-- The task. -/
  task : Text
  deriving DecidableEq, Repr

namespace GenerateRequest

/-- A task without the blanks around it, if anything is left. -/
def task? (value : Json) : Option Text :=
  value.text?.bind fun text => if text.isBlank then none else some text.trim

/-- A request from the members of a document. -/
def ofMembers (members : Members) : Checked GenerateRequest :=
  GenerateRequest.mk <$> members.required ["task"] (.leaf task?)

/-- A request from a document. -/
def check : Json → Checked GenerateRequest :=
  Json.record ofMembers

/-- A request as a document. -/
def toJson (r : GenerateRequest) : Json :=
  .ofFields [("task", r.task)]

end GenerateRequest

end Automation
