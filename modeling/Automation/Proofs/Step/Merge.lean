import Automation.Proofs.Step.Order
import Automation.Step.Merge
import Mathlib.Data.List.SplitBy

/-!
# Runs of steps that are merged

Whether a step can be taken into the step before it does not depend on descriptions, so it can be
told from the steps as they were listed. Merging therefore cuts the list into runs of neighbours that
can be taken in, and folds each run into one step (`mergeParallel_eq`). Triggers and error handlers
are runs of their own (`runs_append_apart`).
-/

namespace Automation.Step

variable {s a b handler : Step} {steps front back run rest : List Step}

/-- The runs of a list: two neighbours are in one run if the second can be taken into the first. -/
def runs (steps : List Step) : List (List Step) :=
  steps.splitBy mergeable

/-- The steps of a run as one step. -/
def folded : List Step → Step
  | [] => default
  | step :: rest => rest.foldl absorb step

@[simp] theorem runs_nil : runs [] = [] :=
  rfl

@[simp] theorem flatten_runs (steps : List Step) : (runs steps).flatten = steps :=
  List.flatten_splitBy mergeable steps

theorem ne_nil_of_mem_runs (h : run ∈ runs steps) : run ≠ [] :=
  List.ne_nil_of_mem_splitBy h

@[simp] theorem folded_singleton (s : Step) : folded [s] = s :=
  rfl

/-! ### Folding -/

/-- What can be taken into a step can be taken into it together with the next one, and into the next
one alone. -/
theorem mergeable_absorb (h : mergeable a b) (s : Step) : mergeable (absorb a b) s = mergeable b s := by
  have habsorb : mergeable (absorb a b) s = mergeable a s := rfl
  rw [habsorb]
  simp only [mergeable, Bool.and_eq_true, Bool.not_eq_true', beq_iff_eq] at h ⊢
  obtain ⟨⟨⟨⟨⟨⟨⟨-, hatrigger⟩, hahandler⟩, hbtrigger⟩, hbhandler⟩, haparallel⟩, hbparallel⟩, htype⟩ := h
  rw [hatrigger, hahandler, hbtrigger, hbhandler, haparallel, hbparallel, htype]

/-- The steps after a run, each run of them folded. -/
def foldedRuns : List Step → List Step
  | [] => []
  | step :: rest => mergeFrom step rest

/-- A run is folded into the step that it begins with, and folding starts afresh behind it. The step
`a` is the last one that was taken into `s`, so that `s` takes in what `a` does. -/
theorem mergeFrom_append (hlike : ∀ t, mergeable s t = mergeable a t)
    (hrun : (a :: run).IsChain fun x y => mergeable x y)
    (hend : ∀ t ∈ rest.head?, mergeable ((a :: run).getLast (List.cons_ne_nil a run)) t = false) :
    mergeFrom s (run ++ rest) = run.foldl absorb s :: foldedRuns rest := by
  induction run generalizing s a with
  | nil =>
    cases rest with
    | nil => rfl
    | cons t rest =>
      have hstop : mergeable s t = false := (hlike t).trans (hend t rfl)
      rw [List.nil_append, mergeFrom, if_neg (by simp [hstop])]
      rfl
  | cons b run ih =>
    obtain ⟨hab, hchain⟩ := List.isChain_cons_cons.1 hrun
    have hsb : mergeable s b = true := (hlike b).trans hab
    rw [List.cons_append, mergeFrom, if_pos hsb]
    exact ih (mergeable_absorb hsb) hchain hend

theorem foldedRuns_flatten {groups : List (List Step)} (hne : ∀ run ∈ groups, run ≠ [])
    (hruns : ∀ run ∈ groups, run.IsChain fun x y => mergeable x y)
    (hends : groups.IsChain fun x y => ∃ hx hy, mergeable (x.getLast hx) (y.head hy) = false) :
    foldedRuns groups.flatten = groups.map folded := by
  induction groups with
  | nil => rfl
  | cons run groups ih =>
    rw [List.forall_mem_cons] at hne hruns
    rw [List.isChain_cons] at hends
    obtain ⟨first, run, rfl⟩ := List.exists_cons_of_ne_nil hne.1
    have hend : ∀ t ∈ groups.flatten.head?,
        mergeable ((first :: run).getLast (List.cons_ne_nil first run)) t = false := by
      intro t ht
      cases groups with
      | nil => cases ht
      | cons next groups =>
        obtain ⟨_, hnext, hstop⟩ := hends.1 next rfl
        obtain ⟨second, next, rfl⟩ := List.exists_cons_of_ne_nil hnext
        obtain rfl : second = t := Option.some.inj ht
        exact hstop
    rw [List.flatten_cons, List.map_cons, ← ih hne.2 hruns.2 hends.2]
    exact mergeFrom_append (fun _ => rfl) hruns.1 hend

/-- Merging folds each run into one step and numbers these steps. -/
theorem mergeParallel_eq (steps : List Step) : mergeParallel steps = reindex ((runs steps).map folded) := by
  have hfolded : mergeParallel steps = reindex (foldedRuns steps) := by cases steps <;> rfl
  have hruns : foldedRuns (runs steps).flatten = (runs steps).map folded :=
    foldedRuns_flatten (fun _ => ne_nil_of_mem_runs) (fun _ => List.isChain_of_mem_splitBy)
      (List.isChain_getLast_head_splitBy mergeable steps)
  rw [hfolded, ← hruns, flatten_runs]

/-! ### Numbers and places -/

/-- What is left of a list when it was merged stands at the place of its run. -/
theorem getElem?_mergeParallel {before after : List (List Step)} {run : List Step}
    (h : runs steps = before ++ run :: after) :
    (mergeParallel steps)[before.length]? = some { folded run with index := before.length + 1 } := by
  rw [mergeParallel_eq, getElem?_reindex, h]
  simp

theorem map_index_mergeParallel (steps : List Step) :
    (mergeParallel steps).map index = List.range' 1 (mergeParallel steps).length := by
  rw [mergeParallel_eq, map_index_reindex, length_reindex]

/-! ### Triggers and error handlers -/

theorem mergeable_of_apart (hs : s.isTrigger ∨ s.isErrorHandler) :
    mergeable s a = false ∧ mergeable a s = false := by
  rcases hs with hs | hs <;> simp [mergeable, hs]

/-- A trigger or an error handler is a run of its own. -/
theorem runs_append_apart (hs : s.isTrigger ∨ s.isErrorHandler) (front back : List Step) :
    runs (front ++ s :: back) = runs front ++ [s] :: runs back := by
  have hback : runs ([s] ++ back) = runs [s] ++ runs back :=
    List.splitBy_append fun x hx y _ => by
      obtain rfl : s = x := Option.some.inj hx
      exact (mergeable_of_apart hs).1
  rw [runs, List.splitBy_append_cons back fun x _ => (mergeable_of_apart hs).2]
  exact congrArg (runs front ++ ·) hback

/-- The run of the step before a handler is the one right before the handler. -/
theorem exists_runs_of_handler (hhandler : handler.isErrorHandler) (front : List Step) (s : Step)
    (back : List Step) :
    ∃ before run after, runs (front ++ s :: handler :: back) = before ++ (run ++ [s]) :: [handler] :: after ∧
      before.flatten ++ run = front := by
  have hruns := runs_append_apart (.inr hhandler) (front ++ [s]) back
  have hne : runs (front ++ [s]) ≠ [] := fun hnil => by
    have hflatten := flatten_runs (front ++ [s])
    simp [hnil] at hflatten
  obtain ⟨before, last, hlast⟩ := List.eq_nil_or_concat (runs (front ++ [s])) |>.resolve_left hne
  rw [List.concat_eq_append] at hlast
  have hflatten : before.flatten ++ last = front ++ [s] := by
    rw [← flatten_runs (front ++ [s]), hlast]
    simp
  -- the last run is not empty, so it ends with the step before the handler
  have hmem : last ∈ runs (front ++ [s]) := by simp [hlast]
  have hlastne : last ≠ [] := ne_nil_of_mem_runs hmem
  obtain ⟨run, t, hrun⟩ := List.eq_nil_or_concat last |>.resolve_left hlastne
  rw [List.concat_eq_append] at hrun
  rw [hrun, ← List.append_assoc] at hflatten
  obtain ⟨hfront, ht⟩ := List.append_inj' hflatten rfl
  obtain rfl : t = s := List.singleton_inj.1 ht
  refine ⟨before, run, runs back, ?_, hfront⟩
  rw [List.append_assoc] at hruns
  rw [← hrun]
  simpa [hlast] using hruns

end Automation.Step
