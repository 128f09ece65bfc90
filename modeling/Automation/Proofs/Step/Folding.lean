import Automation.Proofs.Step.Merge

/-!
# What merging makes of a list

A list is cut into groups of neighbours. The groups of more than one step are the longest runs of steps that
may run in parallel on one type of node, where triggers and error handlers belong to no run; all other
groups are single steps. Merging makes one step of each group.

The function walks the list once and compares each step with one that has taken in others already. That it
finds the longest runs is due to what it takes over from the first step of a run, which is all that decides
what can be taken in.

Main statement: `mergeParallel_folds`.
-/

namespace Automation.Step

variable {s t a b handler : Step} {steps front back run : List Step} {before after groups : List (List Step)}

/-! ### Parallel steps -/

/-- Whether a step may run in parallel on a type of node, and neither starts a plan nor handles an error. -/
def RunsOn (type : Text) (s : Step) : Prop :=
  s.parallelizable ∧ s.nodeType = type ∧ ¬s.isTrigger ∧ ¬s.isErrorHandler

/-- All of some steps may run in parallel on one type of node. -/
def AreParallel (steps : List Step) : Prop :=
  ∃ type : Text, type ≠ [] ∧ ∀ s ∈ steps, RunsOn type s

/-- Parallel steps between two parts of a list that are not parallel with either neighbour. -/
structure IsLongest (front run back : List Step) : Prop where
  /-- The steps are parallel. -/
  parallel : AreParallel run
  /-- They are not with the step before them. -/
  front_not : ∀ s ∈ front.getLast?, ¬AreParallel (s :: run)
  /-- They are not with the step behind them. -/
  back_not : ∀ s ∈ back.head?, ¬AreParallel (run ++ [s])

theorem mergeable_iff : mergeable a b = true ↔ AreParallel [a, b] := by
  simp only [mergeable, AreParallel, RunsOn, Bool.and_eq_true, Bool.not_eq_true', beq_iff_eq, List.forall_mem_cons]
  constructor
  · rintro ⟨⟨⟨⟨⟨⟨⟨hne, hatrigger⟩, hahandler⟩, hbtrigger⟩, hbhandler⟩, haparallel⟩, hbparallel⟩, htype⟩
    exact ⟨b.nodeType, by simpa using hne, by simp_all⟩
  · rintro ⟨type, hne, ⟨haparallel, rfl, hatrigger, hahandler⟩, ⟨hbparallel, htype, hbtrigger, hbhandler⟩, -⟩
    simp_all

theorem AreParallel.of_subset (h : AreParallel steps) (hsub : run ⊆ steps) : AreParallel run := by
  obtain ⟨type, hne, hall⟩ := h
  exact ⟨type, hne, fun s hs => hall s (hsub hs)⟩

/-- Two lists of parallel steps with a step in common are parallel together. -/
theorem AreParallel.union (h : AreParallel steps) (h' : AreParallel run) (hs : s ∈ steps) (hs' : s ∈ run) :
    AreParallel (steps ++ run) := by
  obtain ⟨type, hne, hall⟩ := h
  obtain ⟨type', -, hall'⟩ := h'
  obtain rfl : type = type' := (hall s hs).2.1.symm.trans (hall' s hs').2.1
  refine ⟨type, hne, fun t ht => ?_⟩
  rcases List.mem_append.1 ht with ht | ht
  · exact hall t ht
  · exact hall' t ht

/-- More than one step are parallel if and only if each can be taken into the one before it. -/
theorem isChain_iff_areParallel (hlong : 1 < run.length) :
    (run.IsChain fun x y => mergeable x y) ↔ AreParallel run := by
  constructor
  · intro hchain
    match run, hlong with
    | a :: b :: rest, _ =>
      induction rest generalizing a b with
      | nil => exact mergeable_iff.1 (List.isChain_cons_cons.1 hchain).1
      | cons c rest ih =>
        obtain ⟨hab, hrest⟩ := List.isChain_cons_cons.1 hchain
        have htogether := (mergeable_iff.1 hab).union (ih b c (by simp) hrest) (s := b) (by simp) (by simp)
        exact htogether.of_subset (by simp)
  · rintro hparallel
    refine (List.pairwise_of_forall_mem_list fun a ha b hb => ?_).isChain
    exact mergeable_iff.2 (hparallel.of_subset (by simp [ha, hb]))

/-! ### The runs of a list -/

theorem exists_getLast?_of_flatten (hne : ∀ run ∈ groups, run ≠ []) (hs : s ∈ groups.flatten.getLast?) :
    ∃ run ∈ groups.getLast?, s ∈ run.getLast? := by
  rcases List.eq_nil_or_concat groups with rfl | ⟨groups, run, rfl⟩
  · cases hs
  · rw [List.concat_eq_append] at hne hs ⊢
    rw [List.flatten_append, List.flatten_singleton, List.getLast?_append_of_ne_nil _ (hne run (by simp))] at hs
    exact ⟨run, by simp, hs⟩

theorem exists_head?_of_flatten (hne : ∀ run ∈ groups, run ≠ []) (hs : s ∈ groups.flatten.head?) :
    ∃ run ∈ groups.head?, s ∈ run.head? := by
  cases groups with
  | nil => cases hs
  | cons run groups =>
    rw [List.flatten_cons, List.head?_append_of_ne_nil _ (hne run List.mem_cons_self)] at hs
    exact ⟨run, rfl, hs⟩

/-- A longest run of parallel steps is a run of the list by itself. -/
theorem runs_append_of_isLongest (hlong : 1 < run.length) (h : IsLongest front run back) :
    runs (front ++ (run ++ back)) = runs front ++ run :: runs back := by
  have hne : run ≠ [] := List.length_pos_iff.1 (Nat.zero_lt_of_lt hlong)
  have hrun : runs run = [run] := List.splitBy_of_isChain hne ((isChain_iff_areParallel hlong).2 h.parallel)
  have hback : ∀ x ∈ run.getLast?, ∀ y ∈ back.head?, mergeable x y = false := by
    intro x hx y hy
    rw [← Bool.not_eq_true, mergeable_iff]
    intro hxy
    have htogether := h.parallel.union hxy (List.mem_of_mem_getLast? hx) (s := x) (by simp)
    exact h.back_not y hy (htogether.of_subset (by simp))
  have hfront : ∀ x ∈ front.getLast?, ∀ y ∈ (run ++ back).head?, mergeable x y = false := by
    intro x hx y hy
    rw [List.head?_append_of_ne_nil _ hne] at hy
    rw [← Bool.not_eq_true, mergeable_iff]
    intro hxy
    have htogether := hxy.union h.parallel (s := y) (by simp) (List.mem_of_mem_head? hy)
    exact h.front_not x hx (htogether.of_subset (by simp))
  rw [runs, List.splitBy_append hfront, List.splitBy_append hback]
  change runs front ++ (runs run ++ runs back) = _
  rw [hrun, List.singleton_append]

/-- A run of more than one step is a longest one. -/
theorem isLongest_of_runs (hlong : 1 < run.length) (hruns : runs steps = before ++ run :: after) :
    IsLongest before.flatten run after.flatten := by
  have hne : ∀ group ∈ before ++ run :: after, group ≠ [] := fun group hgroup =>
    ne_nil_of_mem_runs (hruns ▸ hgroup)
  have hchain : run.IsChain fun x y => mergeable x y :=
    List.isChain_of_mem_splitBy (show run ∈ runs steps by simp [hruns])
  have hbetween := List.isChain_getLast_head_splitBy mergeable steps
  change (runs steps).IsChain _ at hbetween
  rw [hruns, List.isChain_append, List.isChain_cons] at hbetween
  obtain ⟨-, ⟨hbehind, -⟩, hahead⟩ := hbetween
  refine ⟨(isChain_iff_areParallel hlong).1 hchain, fun s hs hparallel => ?_, fun s hs hparallel => ?_⟩
  · obtain ⟨group, hgroup, hlast⟩ :=
      exists_getLast?_of_flatten (fun group hgroup => hne group (by simp [hgroup])) hs
    obtain ⟨_, hrun, hstop⟩ := hahead group hgroup run rfl
    rw [List.getLast_of_mem_getLast? hlast] at hstop
    have hmerge : mergeable s (run.head hrun) = true :=
      mergeable_iff.2 (hparallel.of_subset (by simp [List.head_mem]))
    exact Bool.false_ne_true (hstop.symm.trans hmerge)
  · obtain ⟨group, hgroup, hhead⟩ := exists_head?_of_flatten (fun group hgroup => hne group (by simp [hgroup])) hs
    obtain ⟨hrun, _, hstop⟩ := hbehind group hgroup
    rw [List.head_of_mem_head? hhead] at hstop
    have hmerge : mergeable (run.getLast hrun) s = true :=
      mergeable_iff.2 (hparallel.of_subset (by simp [List.getLast_mem]))
    exact Bool.false_ne_true (hstop.symm.trans hmerge)

/-- A list cut into groups, of which those of more than one step are its longest runs of parallel steps. -/
structure IsCut (steps : List Step) (groups : List (List Step)) : Prop where
  /-- The groups make up the list. -/
  flatten : groups.flatten = steps
  /-- No group is empty. -/
  ne_nil : ∀ group ∈ groups, group ≠ []
  /-- More than one step are a group at a place if and only if they are a longest run there. -/
  longest : ∀ front run back, 1 < run.length →
    ((∃ before after, groups = before ++ run :: after ∧ before.flatten = front ∧ after.flatten = back) ↔
      steps = front ++ (run ++ back) ∧ IsLongest front run back)

theorem isCut_runs (steps : List Step) : IsCut steps (runs steps) := by
  refine ⟨flatten_runs steps, fun _ => ne_nil_of_mem_runs, fun front run back hlong => ?_⟩
  constructor
  · rintro ⟨before, after, hruns, rfl, rfl⟩
    refine ⟨?_, isLongest_of_runs hlong hruns⟩
    rw [← flatten_runs steps, hruns, List.flatten_append, List.flatten_cons]
  · rintro ⟨rfl, hlongest⟩
    exact ⟨runs front, runs back, runs_append_of_isLongest hlong hlongest, flatten_runs front, flatten_runs back⟩

/-! ### What a group becomes -/

/-- A step stands for a group: it is the first step of the group but for its number, and but for its
description, which is made of those of the group. -/
def StandsFor (s : Step) (group : List Step) : Prop :=
  ∃ first ∈ group.head?,
    s = { first with index := s.index, description := Text.join "; " (group.map description) }

theorem folded_cons (first : Step) (rest : List Step) :
    folded (first :: rest) =
      { first with description := Text.join "; " ((first :: rest).map description) } := by
  induction rest generalizing first with
  | nil => simp [Text.join]
  | cons s rest ih =>
    have hfold : folded (first :: s :: rest) = folded (absorb first s :: rest) := rfl
    rw [hfold, ih (absorb first s)]
    cases rest <;> simp [Text.join, absorb, List.intercalate_cons_cons]

theorem standsFor_folded {group : List Step} (hne : group ≠ []) (i : Nat) :
    StandsFor { folded group with index := i } group := by
  obtain ⟨first, rest, rfl⟩ := List.exists_cons_of_ne_nil hne
  exact ⟨first, rfl, by rw [folded_cons]⟩

/-- What a run was folded into takes in what the last step of the run does. -/
theorem mergeable_folded (hrun : run.IsChain fun x y => mergeable x y) (hne : run ≠ []) (s : Step) :
    mergeable (folded run) s = mergeable (run.getLast hne) s := by
  obtain ⟨first, rest, rfl⟩ := List.exists_cons_of_ne_nil hne
  induction rest generalizing first with
  | nil => rfl
  | cons b rest ih =>
    obtain ⟨hab, hrest⟩ := List.isChain_cons_cons.1 hrun
    have hfold : mergeable (folded (first :: b :: rest)) s = mergeable (folded (b :: rest)) s := by
      rw [folded_cons, folded_cons]
      exact mergeable_absorb hab s
    rw [hfold, ih b hrest (List.cons_ne_nil b rest), List.getLast_cons_cons]

/-! ### Nothing is left to merge -/

/-- No step can be taken into the one before it. -/
def IsSettled (steps : List Step) : Prop :=
  steps.IsChain fun a b => mergeable a b = false

/-- Whether steps can be merged does not depend on their numbers. -/
theorem isSettled_reindex : IsSettled (reindex steps) ↔ IsSettled steps := by
  have hmap (l : List Step) : IsSettled (l.map unnumbered) ↔ IsSettled l := List.isChain_map unnumbered
  rw [← hmap, map_unnumbered_reindex, hmap]

theorem isSettled_mergeParallel (steps : List Step) : IsSettled (mergeParallel steps) := by
  rw [mergeParallel_eq, isSettled_reindex, IsSettled, List.isChain_map]
  refine (List.isChain_getLast_head_splitBy mergeable steps).imp_of_mem_imp ?_
  rintro run next hrun hnext ⟨hne, hnextne, hstop⟩
  obtain ⟨first, rest, rfl⟩ := List.exists_cons_of_ne_nil hnextne
  rw [mergeable_folded (List.isChain_of_mem_splitBy hrun) hne, folded_cons]
  exact hstop

theorem mergeParallel_of_isSettled (h : IsSettled steps) : mergeParallel steps = reindex steps := by
  have hruns : runs steps = steps.map fun s => [s] := by
    have hflatten : (steps.map fun s => [s]).flatten = steps := by
      rw [← List.flatMap_def, List.flatMap_singleton']
    refine List.splitBy_eq_iff.2 ⟨hflatten.symm, by simp, by simp, ?_⟩
    rw [List.isChain_map]
    exact h.imp fun a b hab => ⟨List.cons_ne_nil a [], List.cons_ne_nil b [], hab⟩
  rw [mergeParallel_eq, hruns, List.map_map]
  exact congrArg reindex (List.map_id steps)

theorem mergeParallel_mergeParallel (steps : List Step) :
    mergeParallel (mergeParallel steps) = mergeParallel steps := by
  rw [mergeParallel_of_isSettled (isSettled_mergeParallel steps), mergeParallel_eq, reindex_reindex]

theorem forall₂_standsFor_mergeParallel (steps : List Step) :
    List.Forall₂ StandsFor (mergeParallel steps) (runs steps) := by
  rw [List.forall₂_iff_get]
  refine ⟨by simp [mergeParallel_eq], fun i hi hi' => ?_⟩
  have hne : (runs steps)[i] ≠ [] := ne_nil_of_mem_runs (List.getElem_mem hi')
  simpa [mergeParallel_eq, reindex] using standsFor_folded hne (i + 1)

/-- **Merging folds the longest runs.** The list is cut into groups, of which those of more than one step are
the longest runs of parallel steps, and each group is folded into one step. The steps are numbered from one,
and none can be taken into the one before it, so that merging a second time changes nothing. An error handler
is a group by itself, and the step before it is in the group right before it. -/
theorem mergeParallel_folds (steps : List Step) :
    ∃ groups, IsCut steps groups ∧ List.Forall₂ StandsFor (mergeParallel steps) groups ∧
      (mergeParallel steps).map index = List.range' 1 groups.length ∧
      (∀ front a b back, mergeParallel steps = front ++ a :: b :: back → ¬AreParallel [a, b]) ∧
      (∀ front s handler back, steps = front ++ s :: handler :: back → handler.isErrorHandler →
        ∃ before run after, groups = before ++ (run ++ [s]) :: [handler] :: after ∧ before.flatten ++ run = front ∧
          (mergeParallel steps)[before.length + 1]? = some { handler with index := before.length + 2 }) ∧
      mergeParallel (mergeParallel steps) = mergeParallel steps := by
  refine ⟨runs steps, isCut_runs steps, forall₂_standsFor_mergeParallel steps, ?_, ?_, ?_,
    mergeParallel_mergeParallel steps⟩
  · rw [map_index_mergeParallel, (forall₂_standsFor_mergeParallel steps).length_eq]
  · intro front a b back hmerged hparallel
    have hsettled := isSettled_mergeParallel steps
    rw [hmerged, IsSettled, List.isChain_append_cons_cons] at hsettled
    exact Bool.false_ne_true (hsettled.2.1.symm.trans (mergeable_iff.2 hparallel))
  · rintro front s handler back rfl hhandler
    obtain ⟨before, run, after, hruns, hfront⟩ := exists_runs_of_handler hhandler front s back
    have hnext : runs (front ++ s :: handler :: back) = (before ++ [run ++ [s]]) ++ [handler] :: after := by
      simp [hruns]
    refine ⟨before, run, after, hruns, hfront, ?_⟩
    simpa using getElem?_mergeParallel hnext

end Automation.Step
