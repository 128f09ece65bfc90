import Automation.Step.Kind

/-!
# Steps

One logical unit of work, before it becomes a node of a workflow. Steps of a plan are numbered from
one in their order.
-/

namespace Automation

/-- A step of an automation. -/
structure Step where
  /-- Its number. -/
  index : Nat
  /-- Its role. -/
  kind : StepKind
  /-- What is done. -/
  description : Text
  /-- The service that does it. -/
  service : Text
  /-- The type of node that does it; empty if there is none yet. -/
  nodeType : Text
  /-- Why it is there. -/
  rationale : Option Text
  /-- Whether it may run beside its neighbours. -/
  parallelizable : Bool
  /-- What happens when it fails. -/
  errorHandling : Option Text
  deriving DecidableEq, Repr, Inhabited

namespace Step

/-- Whether the step starts the automation. -/
def isTrigger (s : Step) : Bool :=
  s.kind == .trigger

/-- Whether the step is followed when the step before it fails. -/
def isErrorHandler (s : Step) : Bool :=
  s.kind == .errorHandler

/-- The members of a step in a document. -/
def fields (s : Step) : List (String × Json) := [
  ("step", .int s.index),
  ("type", s.kind.name),
  ("description", s.description),
  ("service", s.service),
  ("nodeType", s.nodeType),
  ("rationale", .ofOption .text s.rationale),
  ("parallelizable", .bool s.parallelizable),
  ("errorHandling", .ofOption .text s.errorHandling)]

/-- A step as a document. -/
def toJson (s : Step) : Json :=
  .ofFields s.fields

/-- A step as a document without the members it has no value for. -/
def compact (s : Step) : Json :=
  .ofFields (s.fields.filter fun (_, value) => value != .null)

/-- The step that starts an automation by hand. -/
def manualTrigger : Step where
  index := 1
  kind := .trigger
  description := "Start automation"
  service := "Manual Trigger"
  nodeType := "n8n-nodes-base.manualTrigger"
  rationale := none
  parallelizable := false
  errorHandling := none

end Step

end Automation
