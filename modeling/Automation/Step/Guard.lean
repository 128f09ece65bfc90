import Automation.Step.Order

/-!
# What a revised plan has to keep

When a plan is revised, its steps are recognised by node type and description, the latter without
regard to case. A revision keeps the trigger if it starts with a trigger of the same node type, and
it keeps the guards if every error handler that it still has stands behind the step it stood behind.
-/

namespace Automation.Step

/-- By what a step is recognised. -/
structure Identity where
  /-- The type of node. -/
  nodeType : Text
  /-- The description in lower case. -/
  description : Text
  deriving DecidableEq, Repr

/-- By what a step is recognised. -/
def identity (s : Step) : Identity :=
  ⟨s.nodeType, s.description.lower⟩

/-- Whether a revised plan starts with a trigger, and with one of the same type as before if the
plan started with one. -/
def triggerPreserved (before after : List Step) : Bool :=
  match before, after with
  | b :: _, a :: _ => a.isTrigger && (!b.isTrigger || a.nodeType == b.nodeType)
  | [], a :: _ => a.isTrigger
  | _, [] => false

/-- The error handlers of a plan, each with the step it stands behind. -/
def guards (steps : List Step) : List (Step × Step) :=
  (steps.zip (steps.drop 1)).filter fun (_, handler) => handler.isErrorHandler

/-- The step that the handlers of an identity guard. If several do, the last one decides. -/
def guardedBy (steps : List Step) (handler : Identity) : Option Identity :=
  ((guards steps).reverse.find? fun (_, h) => h.identity = handler).map fun (s, _) => s.identity

/-- Whether every error handler of a revised plan that guarded a step before still guards it. -/
def guardsPreserved (before after : List Step) : Bool :=
  (guards after).all fun (step, handler) =>
    (guardedBy before handler.identity).all fun guarded => guarded == step.identity

end Automation.Step
