import Automation.Chars.Blank
import Automation.Leading
import Automation.Node.Definition
import Automation.Step.Basic

/-!
# Names of nodes

A node is named after the service of its step, or its description, or what is known about its type.
Names are short and no two nodes of a workflow have the same one: a name that is taken is shortened
and numbered, with the least number that makes it new.
-/

namespace Automation.Naming

/-- The greatest length of a name. -/
def maxLength : Nat := 30

/-- What a node is named after. -/
def label (step : Step) (definition : Option NodeDefinition) : Text :=
  if !step.service.isEmpty then step.service
  else if !step.description.isEmpty then step.description
  else
    match definition with
    | some d => d.displayName
    | none => "Step " ++ toString step.index

/-- The name of a node before it is made unique. -/
def base (step : Step) (definition : Option NodeDefinition) : Text :=
  Text.trim ((label step definition).take maxLength)

/-- A name with a number at its end, shortened to make room for it. -/
def numbered (name : Text) (number : Nat) : Text :=
  let digits : Text := toString number
  Text.trimEnd (leading ((maxLength : Int) - digits.length) name) ++ digits

/-- The first new name among those with a number from a given one on; the count bounds the search.
-/
def search (taken : List Text) (name : Text) : Nat → Nat → Text
  | 0, number => numbered name number
  | tries + 1, number =>
    let candidate := numbered name number
    if taken.contains candidate then search taken name tries (number + 1) else candidate

/-- A name, or if it is taken the first new one with a number. Numbers with equally many digits give
different names, so that among the first `12 * (n + 1)` there is a new one if `n` names are taken.
-/
def fresh (taken : List Text) (name : Text) : Text :=
  if taken.contains name then search taken name (12 * (taken.length + 1)) 1 else name

/-- Names made unique one after the other, beside names that are taken. -/
def uniqueFrom (taken : List Text) : List Text → List Text
  | [] => []
  | name :: rest =>
    let new := fresh taken name
    new :: uniqueFrom (new :: taken) rest

/-- The names of the nodes of steps. -/
def names (steps : List (Step × Option NodeDefinition)) : List Text :=
  uniqueFrom [] (steps.map fun (step, definition) => base step definition)

end Automation.Naming
