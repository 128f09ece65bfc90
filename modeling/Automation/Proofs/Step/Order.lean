import Automation.Step.Order

/-!
# Steps and their numbers

Steps that have been put in order are numbered from one without gaps. What is done to a list when it is
numbered anew is told without regard to numbers (`reindex_inj`).
-/

namespace Automation.Step

variable {steps others : List Step}

/-- A step without regard to its number. -/
def unnumbered (s : Step) : Step :=
  { s with index := 1 }

@[simp] theorem isTrigger_unnumbered (s : Step) : s.unnumbered.isTrigger = s.isTrigger :=
  rfl

@[simp] theorem length_reindex (steps : List Step) : (reindex steps).length = steps.length := by
  simp [reindex]

theorem getElem?_reindex (steps : List Step) (i : Nat) :
    (reindex steps)[i]? = steps[i]?.map fun s => { s with index := i + 1 } := by
  simp [reindex]

theorem map_index_reindex (steps : List Step) :
    (reindex steps).map index = List.range' 1 steps.length := by
  refine List.ext_getElem (by simp) fun i h _ => ?_
  simp [reindex, Nat.add_comm]

theorem reindex_of_map_index (h : steps.map index = List.range' 1 steps.length) : reindex steps = steps := by
  refine List.ext_getElem (length_reindex steps) fun i hi hi' => ?_
  have hindex : steps[i].index = i + 1 := by
    have hmap : (steps.map index)[i]? = (List.range' 1 steps.length)[i]? := by rw [h]
    simp only [List.getElem?_map, List.getElem?_eq_getElem hi', List.getElem?_range' hi', Option.map_some,
      Option.some.injEq] at hmap
    omega
  simp only [reindex, List.getElem_mapIdx, ← hindex]

theorem map_index_repair (steps : List Step) :
    (repair steps).map index = List.range' 1 (repair steps).length := by
  rw [repair, map_index_reindex, length_reindex]

@[simp] theorem map_unnumbered_reindex (steps : List Step) :
    (reindex steps).map unnumbered = steps.map unnumbered :=
  List.ext_getElem (by simp) fun i _ _ => by simp [reindex, unnumbered]

@[simp] theorem reindex_map_unnumbered (steps : List Step) : reindex (steps.map unnumbered) = reindex steps :=
  List.ext_getElem (by simp) fun i _ _ => by simp [reindex, unnumbered]

/-- Steps that are numbered anew are the same if and only if they were so without regard to numbers. -/
theorem reindex_inj : reindex steps = reindex others ↔ steps.map unnumbered = others.map unnumbered := by
  constructor
  · intro h
    rw [← map_unnumbered_reindex, h, map_unnumbered_reindex]
  · intro h
    rw [← reindex_map_unnumbered, h, reindex_map_unnumbered]

@[simp] theorem reindex_reindex (steps : List Step) : reindex (reindex steps) = reindex steps :=
  reindex_inj.2 (map_unnumbered_reindex steps)

end Automation.Step
