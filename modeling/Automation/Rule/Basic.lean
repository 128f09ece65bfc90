import Automation.Node.Definition
import Automation.Rule.Mention
import Automation.Step.Basic

/-!
# Rules

A rule adapts the parameters of a node to what its step is about. It has a condition on the step and
on the definition of its type, if there is one, and a change of the parameters. Rules are tried in
order, and only the first one whose condition holds is applied.
-/

namespace Automation

/-- When a rule applies. -/
abbrev Condition := Step → Option NodeDefinition → Bool

/-- A rule. -/
structure Rule where
  /-- Its name. -/
  name : Text
  /-- When it applies. -/
  applies : Condition
  /-- What it does to the parameters. -/
  change : Members → Members

namespace Condition

/-- The step is of a known type with an identity. -/
def resolvesTo (typeId : Text) : Condition :=
  fun _ definition => definition.any fun d => d.typeId == typeId

/-- The description of the step mentions one of some keywords. -/
def mentions (keywords : List Text) : Condition :=
  fun step _ => mentionsAny keywords step.description

/-- Several conditions hold together. -/
def allOf (conditions : List Condition) : Condition :=
  fun step definition => conditions.all fun c => c step definition

end Condition

namespace Rule

/-- The change that sets some parameters. -/
def setting (values : Members) : Members → Members :=
  fun parameters => parameters.putAll values

/-- The first rule that applies. -/
def first? (rules : List Rule) (step : Step) (definition : Option NodeDefinition) : Option Rule :=
  rules.find? fun rule => rule.applies step definition

/-- Parameters, changed by the first rule that applies. -/
def customize (rules : List Rule) (step : Step) (definition : Option NodeDefinition)
    (parameters : Members) : Members :=
  match first? rules step definition with
  | some rule => rule.change parameters
  | none => parameters

end Rule

end Automation
