import Automation.Step.Basic

/-!
# The order of steps

Steps are numbered from one, and a plan begins with the step that starts it. `repair` brings any
list into this form without losing a step: the first trigger goes to the front, and all others keep
their order.
-/

namespace Automation.Step

/-- The steps numbered from one. -/
def reindex (steps : List Step) : List Step :=
  steps.mapIdx fun i step => { step with index := i + 1 }

/-- Whether the first step is a trigger. -/
def hasLeadingTrigger : List Step → Bool
  | [] => false
  | step :: _ => step.isTrigger

/-- The steps with the first trigger in front; without a trigger, as they are. -/
def ensureLeadingTrigger (steps : List Step) : List Step :=
  match steps.find? isTrigger with
  | none => steps
  | some trigger => trigger :: steps.eraseP isTrigger

/-- The steps with the first trigger in front, numbered from one. -/
def repair (steps : List Step) : List Step :=
  reindex (ensureLeadingTrigger steps)

end Automation.Step
