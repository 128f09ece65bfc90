import Automation.Plan.Mapping
import Automation.Step.Basic

/-!
# The store

What the stages of a run hand on to each other. Each stage reads what it needs and puts its result
under an entry of its own. The names of the stages that had to fall back are kept beside.
-/

namespace Automation

/-- What the stages hand on. -/
structure Store where
  /-- The task. -/
  task : Option Json := none
  /-- The names of the stages that fell back; usually a list, and not there before the first one. -/
  fallbackStages : Option Json := none
  /-- The task taken apart. -/
  decomposition : Option Decomposition := none
  /-- The pieces mapped to types of nodes. -/
  mapping : Option TechnicalMapping := none
  /-- The steps as they were designed. -/
  architectureSteps : Option (List Step) := none
  /-- The steps as they were revised. -/
  optimizedSteps : Option (List Step) := none
  deriving DecidableEq, Repr

namespace Store

/-- The record of stages that fell back with one more name; nothing if it is not kept as a list. -/
def recordFallback (record : Option Json) (stage : Text) : Option Json :=
  match record with
  | none => some (.ofTexts [stage])
  | some (.array names) => some (.array (names ++ [(stage : Json)]))
  | some _ => none

end Store

end Automation
