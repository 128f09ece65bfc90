import Automation.Step.Guard

/-!
# What a check of guards tells

The guards of a list are its error handlers that have a step before them, each with that step. If a
revised list passes the check, every handler in it that is recognised as one of the guards of the old
list stands behind a step that is recognised as the one before.

The converse fails. Of several handlers that are recognised as the same the check knows the last one
only, so that a list is not even a revision of itself if two of them guard different steps.

Main statement: `guardsPreserved_exact`.
-/

namespace Automation.Step

variable {s handler : Step} {steps before after front back : List Step} {guarded : Identity}

/-- Two steps are neighbours if the list can be cut around them. -/
theorem mem_zip_drop_one : (s, handler) ∈ steps.zip (steps.drop 1) ↔
    ∃ front back, steps = front ++ s :: handler :: back := by
  induction steps with
  | nil => simp
  | cons a steps ih =>
    rw [List.drop_one, List.tail_cons]
    constructor
    · intro h
      cases steps with
      | nil => simp at h
      | cons b steps =>
        rcases List.mem_cons.1 h with heq | hrest
        · obtain ⟨rfl, rfl⟩ := Prod.mk.inj heq
          exact ⟨[], steps, rfl⟩
        · obtain ⟨front, back, hsteps⟩ := ih.1 hrest
          exact ⟨a :: front, back, congrArg (a :: ·) hsteps⟩
    · rintro ⟨front, back, hsteps⟩
      cases front with
      | nil =>
        obtain ⟨rfl, rfl⟩ := List.cons.inj hsteps
        exact List.mem_cons_self
      | cons c front =>
        have hrest : steps = front ++ s :: handler :: back := (List.cons.inj hsteps).2
        have hmem := ih.2 ⟨front, back, hrest⟩
        -- the rest has two steps at least, so its neighbours are among those of the whole
        cases steps with
        | nil => simp at hrest
        | cons b steps => exact List.mem_cons_of_mem _ hmem

/-- A guard is an error handler with the step right before it. -/
theorem mem_guards : (s, handler) ∈ guards steps ↔
    handler.isErrorHandler ∧ ∃ front back, steps = front ++ s :: handler :: back := by
  rw [guards, List.mem_filter, mem_zip_drop_one, and_comm]

/-- What a handler has to guard is guarded by a handler with its identity. -/
theorem exists_guard_of_guardedBy (h : guardedBy before handler.identity = some guarded) :
    ∃ g ∈ guards before, g.2.identity = handler.identity ∧ g.1.identity = guarded := by
  obtain ⟨g, hfind, rfl⟩ := Option.map_eq_some_iff.1 h
  refine ⟨g, List.mem_reverse.1 (List.mem_of_find?_eq_some hfind), ?_, rfl⟩
  simpa using List.find?_some hfind

theorem guardedBy_ne_none {g : Step × Step} (hg : g ∈ guards before) : guardedBy before g.2.identity ≠ none := by
  intro hnone
  rw [guardedBy, Option.map_eq_none_iff, List.find?_eq_none] at hnone
  simpa using hnone g (List.mem_reverse.2 hg)

/-- In a list that passes the check, a handler that guarded a step before guards one with the same
identity as that of some handler with its own identity. -/
theorem exists_guard_of_guardsPreserved (hkept : guardsPreserved before after = true)
    (hg : (s, handler) ∈ guards after) (hbefore : ∃ g ∈ guards before, g.2.identity = handler.identity) :
    ∃ g ∈ guards before, g.2.identity = handler.identity ∧ g.1.identity = s.identity := by
  obtain ⟨g, hmem, hidentity⟩ := hbefore
  obtain ⟨guarded, hguarded⟩ := Option.ne_none_iff_exists'.1 (hidentity ▸ guardedBy_ne_none hmem)
  have hcheck := List.all_eq_true.1 hkept _ hg
  simp only [hguarded, Option.all_some, beq_iff_eq] at hcheck
  exact hcheck ▸ exists_guard_of_guardedBy hguarded

/-! ### The last handler decides -/

/-- An error handler stands in a list right behind the step that it guards. -/
def IsGuard (steps : List Step) (s handler : Step) : Prop :=
  handler.isErrorHandler ∧ ∃ front back, steps = front ++ s :: handler :: back

/-- A step stands before the last error handler of an identity in a list. -/
def BeforeLast (steps : List Step) (i : Identity) (s : Step) : Prop :=
  ∃ handler front back, steps = front ++ s :: handler :: back ∧ handler.isErrorHandler ∧
    handler.identity = i ∧ ∀ h ∈ back, h.isErrorHandler → h.identity ≠ i

theorem guards_cons_cons (s t : Step) (back : List Step) :
    guards (s :: t :: back) = if t.isErrorHandler then (s, t) :: guards (t :: back) else guards (t :: back) := by
  simp [guards, List.filter_cons]

theorem guards_append (front : List Step) (s : Step) (back : List Step) :
    guards (front ++ s :: back) = guards (front ++ [s]) ++ guards (s :: back) := by
  induction front with
  | nil => rfl
  | cons a front ih =>
    cases front with
    | nil =>
      change guards (a :: s :: back) = guards [a, s] ++ guards (s :: back)
      rw [guards_cons_cons, guards_cons_cons]
      split <;> rfl
    | cons b front =>
      simp only [List.cons_append] at ih ⊢
      rw [guards_cons_cons, guards_cons_cons, ih]
      split <;> rfl

/-- What a handler has to guard is the step before the last one that is recognised as the handler. -/
theorem guardedBy_of_beforeLast {i : Identity} (h : BeforeLast steps i s) : guardedBy steps i = some s.identity := by
  obtain ⟨handler, front, back, rfl, hhandler, rfl, hlast⟩ := h
  have hnone : (guards (handler :: back)).reverse.find? (fun g => g.2.identity = handler.identity) = none := by
    rw [List.find?_eq_none]
    intro g hg
    obtain ⟨herror, earlier, later, hsplit⟩ := mem_guards.1 (List.mem_reverse.1 hg)
    -- the handler of a guard is never the first step of the list
    have hmem : g.2 ∈ back := by
      cases earlier with
      | nil =>
        obtain ⟨-, rfl⟩ := List.cons.inj hsplit
        exact List.mem_cons_self
      | cons first earlier =>
        obtain ⟨-, rfl⟩ := List.cons.inj hsplit
        simp
    simpa using hlast g.2 hmem herror
  rw [guardedBy, guards_append, guards_cons_cons, if_pos hhandler, List.reverse_append, List.reverse_cons,
    List.find?_append, List.find?_append, hnone]
  simp

/-- A handler that guards a step is recognised as a last one. -/
theorem exists_beforeLast (h : IsGuard steps s handler) : ∃ t, BeforeLast steps handler.identity t := by
  obtain ⟨hhandler, front, back, hsteps⟩ := h
  -- a later handler of the same identity leaves fewer steps behind it
  induction hlength : back.length using Nat.strongRecOn generalizing s handler front back with
  | ind n ih =>
    by_cases hlater : ∃ h ∈ back, h.isErrorHandler ∧ h.identity = handler.identity
    · obtain ⟨later, hmem, herror, hidentity⟩ := hlater
      obtain ⟨between, rest, rfl⟩ := List.append_of_mem hmem
      obtain ⟨between', t, ht⟩ := List.eq_nil_or_concat (handler :: between) |>.resolve_left (List.cons_ne_nil _ _)
      rw [List.concat_eq_append] at ht
      have hcut : steps = (front ++ s :: between') ++ t :: later :: rest := by
        rw [hsteps, ← List.cons_append, ht]
        simp
      rw [← hidentity]
      exact ih rest.length (by simp at hlength; omega) herror _ _ hcut rfl
    · refine ⟨s, handler, front, back, hsteps, hhandler, rfl, ?_⟩
      intro h hmem herror hidentity
      exact hlater ⟨h, hmem, herror, hidentity⟩

theorem exists_isGuard_of_beforeLast {i : Identity} (h : BeforeLast steps i s) :
    ∃ handler, IsGuard steps s handler ∧ handler.identity = i := by
  obtain ⟨handler, front, back, hsteps, hhandler, hidentity, -⟩ := h
  exact ⟨handler, ⟨hhandler, front, back, hsteps⟩, hidentity⟩

/-- A revised list passes the check if and only if each of its guards agrees with the last handler of the
old list that is recognised as the same. -/
theorem guardsPreserved_iff : guardsPreserved before after = true ↔
    ∀ s handler, IsGuard after s handler → ∀ t, BeforeLast before handler.identity t → t.identity = s.identity := by
  rw [guardsPreserved, List.all_eq_true]
  constructor
  · intro h s handler hguard t ht
    have hcheck := h (s, handler) (mem_guards.2 hguard)
    simpa [guardedBy_of_beforeLast ht] using hcheck
  · rintro h ⟨s, handler⟩ hguard
    change (guardedBy before handler.identity).all (fun guarded => guarded == s.identity) = true
    cases hguarded : guardedBy before handler.identity with
    | none => rfl
    | some guarded =>
      obtain ⟨g, hg, hidentity, -⟩ := exists_guard_of_guardedBy hguarded
      obtain ⟨t, ht⟩ := exists_beforeLast (mem_guards.1 hg)
      rw [hidentity] at ht
      have hagree := h s handler (mem_guards.1 hguard) t ht
      obtain rfl : t.identity = guarded := Option.some.inj ((guardedBy_of_beforeLast ht).symm.trans hguarded)
      exact beq_iff_eq.2 hagree

/-! ### Handlers that are at odds -/

/-- Every error handler of a revised list that is recognised as a guard of the old list guards a step that
is recognised as one that such a handler guarded before. -/
def KeepsGuards (before after : List Step) : Prop :=
  ∀ s handler, IsGuard after s handler →
    (∃ t h, IsGuard before t h ∧ h.identity = handler.identity) →
    ∃ t h, IsGuard before t h ∧ h.identity = handler.identity ∧ t.identity = s.identity

/-- Two handlers of a list are recognised as the same, but the steps that they guard are not. -/
def AtOdds (steps : List Step) : Prop :=
  ∃ s handler s' handler', IsGuard steps s handler ∧ IsGuard steps s' handler' ∧
    handler.identity = handler'.identity ∧ s.identity ≠ s'.identity

theorem KeepsGuards.refl (steps : List Step) : KeepsGuards steps steps :=
  fun s handler hguard _ => ⟨s, handler, hguard, rfl, rfl⟩

theorem keepsGuards_of_guardsPreserved (h : guardsPreserved before after = true) : KeepsGuards before after := by
  rintro s handler hguard ⟨t, h', hguard', hidentity⟩
  obtain ⟨last, hlast⟩ := exists_beforeLast hguard'
  rw [hidentity] at hlast
  obtain ⟨handler', hlastGuard, hsame⟩ := exists_isGuard_of_beforeLast hlast
  exact ⟨last, handler', hlastGuard, hsame, guardsPreserved_iff.1 h s handler hguard last hlast⟩

/-- If no handlers of the old list are at odds, it does not matter that the last one decides. -/
theorem guardsPreserved_of_keepsGuards (hodds : ¬AtOdds before) (h : KeepsGuards before after) :
    guardsPreserved before after = true := by
  rw [guardsPreserved_iff]
  intro s handler hguard last hlast
  obtain ⟨handler', hlastGuard, hsame⟩ := exists_isGuard_of_beforeLast hlast
  obtain ⟨t, h', hguard', hidentity, hstep⟩ := h s handler hguard ⟨last, handler', hlastGuard, hsame⟩
  rw [← hstep]
  refine Decidable.byContradiction fun hne => ?_
  exact hodds ⟨last, handler', t, h', hlastGuard, hguard', hsame.trans hidentity.symm, hne⟩

theorem not_atOdds_of_guardsPreserved_self (h : guardsPreserved steps steps = true) : ¬AtOdds steps := by
  rintro ⟨s, handler, s', handler', hguard, hguard', hidentity, hne⟩
  obtain ⟨last, hlast⟩ := exists_beforeLast hguard
  have hfirst := guardsPreserved_iff.1 h s handler hguard last hlast
  have hsecond := guardsPreserved_iff.1 h s' handler' hguard' last (hidentity ▸ hlast)
  exact hne (hfirst.symm.trans hsecond)

/-- **What the check of guards decides.** The last handler of an identity decides, so what passes keeps the
guards. What keeps the guards passes, whatever the revised list is, if and only if no handlers of the old
list are at odds; and just then the old list passes as a revision of itself. -/
theorem guardsPreserved_exact (before after : List Step) :
    (guardsPreserved before after = true ↔ ∀ s handler, IsGuard after s handler →
      ∀ t, BeforeLast before handler.identity t → t.identity = s.identity) ∧
    (guardsPreserved before after = true → KeepsGuards before after) ∧
    ((∀ revised, guardsPreserved before revised = true ↔ KeepsGuards before revised) ↔ ¬AtOdds before) ∧
    (guardsPreserved before before = true ↔ ¬AtOdds before) := by
  have hself : guardsPreserved before before = true ↔ ¬AtOdds before :=
    ⟨not_atOdds_of_guardsPreserved_self, fun hodds => guardsPreserved_of_keepsGuards hodds (.refl before)⟩
  refine ⟨guardsPreserved_iff, keepsGuards_of_guardsPreserved, ?_, hself⟩
  constructor
  · intro h
    exact hself.1 ((h before).2 (.refl before))
  · intro hodds revised
    exact ⟨keepsGuards_of_guardsPreserved, guardsPreserved_of_keepsGuards hodds⟩

/-- A plan that sends the same alert when a mail fails and when a row is not logged. -/
def alertedTwice : List Step := [
  ⟨1, .trigger, "Every day", [], "cron", none, false, none⟩,
  ⟨2, .action, "Send mail", [], "gmail", none, false, none⟩,
  ⟨3, .errorHandler, "Alert", [], "slack", none, false, none⟩,
  ⟨4, .action, "Log row", [], "sheets", none, false, none⟩,
  ⟨5, .errorHandler, "Alert", [], "slack", none, false, none⟩]

/-- The plan keeps its guards, and does not pass as a revision of itself. -/
theorem not_guardsPreserved_alertedTwice :
    KeepsGuards alertedTwice alertedTwice ∧ guardsPreserved alertedTwice alertedTwice = false :=
  ⟨.refl _, by decide +kernel⟩

end Automation.Step
