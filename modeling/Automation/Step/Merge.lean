import Automation.Step.Order

/-!
# Merging parallel steps

Neighbouring steps that may run in parallel and use the same type of node are one piece of work.
`mergeParallel` folds each run of them into its first step, whose description becomes those of the
run, one after the other. Triggers and error handlers are never merged.
-/

namespace Automation.Step

/-- Whether a step can be taken into the step before it. -/
def mergeable (previous step : Step) : Bool :=
  !step.nodeType.isEmpty && !previous.isTrigger && !previous.isErrorHandler && !step.isTrigger
    && !step.isErrorHandler && previous.parallelizable && step.parallelizable
    && previous.nodeType == step.nodeType

/-- A step with the description of a second one added. -/
def absorb (previous step : Step) : Step :=
  { previous with description := previous.description ++ "; " ++ step.description }

/-- The steps after a given one, folded into it as long as they can be. -/
def mergeFrom (current : Step) : List Step → List Step
  | [] => [current]
  | step :: rest =>
    if mergeable current step then mergeFrom (absorb current step) rest
    else current :: mergeFrom step rest

/-- The steps with each run of parallel steps of one node type folded into one step. -/
def mergeParallel : List Step → List Step
  | [] => []
  | step :: rest => reindex (mergeFrom step rest)

end Automation.Step
