/-!
# Leading items

The first items of a list up to a limit. A limit below zero counts from the end: it says how many of
the last items are left out.
-/

namespace Automation

/-- The first items of a list up to a limit. -/
def leading {α : Type} (limit : Int) (items : List α) : List α :=
  if 0 ≤ limit then items.take limit.toNat else items.take (items.length - limit.natAbs)

end Automation
