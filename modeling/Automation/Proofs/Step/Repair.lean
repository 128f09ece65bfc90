import Automation.Proofs.Step.Order
import Mathlib.Data.List.Basic

/-!
# What repair does to a list

Repair moves the first trigger of a list to the front and numbers the steps anew. It loses and invents
nothing, the other steps keep their order, and what is repaired stays as it is when it is repaired again
(`repair_normal`).

An error handler guards the step right before it, and it is the only kind of step whose meaning depends on
its neighbour. Only the trigger is moved, so a handler that stands behind it stays where it is and guards
what stood before the trigger from then on. That is the only way in which a handler comes to guard another
step (`handlersStay_iff`).
-/

namespace Automation.Step

variable {s t handler : Step} {steps front back : List Step} {i j : Nat}

/-! ### The first trigger -/

theorem ensureLeadingTrigger_of_forall_not (h : ∀ s ∈ steps, ¬s.isTrigger) : ensureLeadingTrigger steps = steps := by
  rw [ensureLeadingTrigger, List.find?_eq_none.2 h]

/-- The first trigger goes to the front, and the others keep their order. -/
theorem ensureLeadingTrigger_append (hfront : ∀ s ∈ front, ¬s.isTrigger) (ht : t.isTrigger) (back : List Step) :
    ensureLeadingTrigger (front ++ t :: back) = t :: (front ++ back) := by
  have hfind : (front ++ t :: back).find? isTrigger = some t := by
    rw [List.find?_append, List.find?_eq_none.2 hfront, Option.none_or, List.find?_cons_of_pos ht]
  rw [ensureLeadingTrigger, hfind, List.eraseP_append_right _ hfront, List.eraseP_cons_of_pos ht]

/-- A list without a trigger, or cut at its first trigger. -/
theorem forall_not_or_exists_first (steps : List Step) :
    (∀ s ∈ steps, ¬s.isTrigger) ∨
      ∃ front t back, steps = front ++ t :: back ∧ (∀ s ∈ front, ¬s.isTrigger) ∧ t.isTrigger := by
  cases h : steps.find? isTrigger with
  | none => exact .inl (List.find?_eq_none.1 h)
  | some t =>
    obtain ⟨ht, front, back, rfl, hfront⟩ := List.find?_eq_some_iff_append.1 h
    exact .inr ⟨front, t, back, rfl, fun s hs => by simpa using hfront s hs, ht⟩

theorem perm_ensureLeadingTrigger (steps : List Step) : (ensureLeadingTrigger steps).Perm steps := by
  rcases forall_not_or_exists_first steps with hnone | ⟨front, t, back, rfl, hfront, ht⟩
  · rw [ensureLeadingTrigger_of_forall_not hnone]
  · rw [ensureLeadingTrigger_append hfront ht]
    exact List.perm_middle.symm

theorem hasLeadingTrigger_ensureLeadingTrigger :
    hasLeadingTrigger (ensureLeadingTrigger steps) = true ↔ ∃ s ∈ steps, s.isTrigger := by
  rcases forall_not_or_exists_first steps with hnone | ⟨front, t, back, rfl, hfront, ht⟩
  · rw [ensureLeadingTrigger_of_forall_not hnone]
    constructor
    · intro hleading
      cases steps with
      | nil => cases hleading
      | cons s rest => exact ⟨s, List.mem_cons_self, hleading⟩
    · rintro ⟨s, hs, htrigger⟩
      exact absurd htrigger (hnone s hs)
  · rw [ensureLeadingTrigger_append hfront ht]
    exact ⟨fun _ => ⟨t, by simp, ht⟩, fun _ => ht⟩

theorem ensureLeadingTrigger_of_hasLeadingTrigger (h : hasLeadingTrigger steps = true) :
    ensureLeadingTrigger steps = steps := by
  cases steps with
  | nil => cases h
  | cons s rest => exact @ensureLeadingTrigger_append s [] nofun h rest

theorem hasLeadingTrigger_reindex (steps : List Step) :
    hasLeadingTrigger (reindex steps) = hasLeadingTrigger steps := by
  cases steps with
  | nil => rfl
  | cons s rest => rw [reindex, List.mapIdx_cons]; rfl

theorem exists_trigger_reindex : (∃ s ∈ reindex steps, s.isTrigger) ↔ ∃ s ∈ steps, s.isTrigger := by
  have hmap (l : List Step) : (∃ s ∈ l, s.isTrigger) ↔ ∃ s ∈ l.map unnumbered, s.isTrigger := by
    simp
  rw [hmap (reindex steps), map_unnumbered_reindex, ← hmap]

/-! ### Repaired lists -/

/-- What is repaired is not changed by another repair. -/
theorem repair_repair (steps : List Step) : repair (repair steps) = repair steps := by
  have hstay : ensureLeadingTrigger (repair steps) = repair steps := by
    by_cases htrigger : ∃ s ∈ steps, s.isTrigger
    · refine ensureLeadingTrigger_of_hasLeadingTrigger ?_
      rw [repair, hasLeadingTrigger_reindex]
      exact hasLeadingTrigger_ensureLeadingTrigger.2 htrigger
    · have hnone : ∀ s ∈ steps, ¬s.isTrigger := fun s hs h => htrigger ⟨s, hs, h⟩
      refine ensureLeadingTrigger_of_forall_not fun s hs h => htrigger ?_
      rw [repair, ensureLeadingTrigger_of_forall_not hnone] at hs
      exact exists_trigger_reindex.1 ⟨s, hs, h⟩
  rw [repair, hstay, repair, reindex_reindex]

/-- **Repair is a normal form.** The steps are numbered from one, and without regard to numbers they are
those of the list. The first step is a trigger if and only if there is one, and then it is the first one of
the list; all others keep their order. To repair a second time changes nothing. -/
theorem repair_normal (steps : List Step) :
    (repair steps).map index = List.range' 1 steps.length ∧
    ((repair steps).map unnumbered).Perm (steps.map unnumbered) ∧
    (hasLeadingTrigger (repair steps) = true ↔ ∃ s ∈ steps, s.isTrigger) ∧
    (∀ front t back, steps = front ++ t :: back → (∀ s ∈ front, ¬s.isTrigger) → t.isTrigger →
      (repair steps).map unnumbered = t.unnumbered :: (front ++ back).map unnumbered) ∧
    ((∀ s ∈ steps, ¬s.isTrigger) → (repair steps).map unnumbered = steps.map unnumbered) ∧
    repair (repair steps) = repair steps := by
  have hcontent : (repair steps).map unnumbered = (ensureLeadingTrigger steps).map unnumbered :=
    map_unnumbered_reindex _
  refine ⟨?_, ?_, ?_, ?_, ?_, repair_repair steps⟩
  · rw [repair, map_index_reindex, (perm_ensureLeadingTrigger steps).length_eq]
  · rw [hcontent]
    exact (perm_ensureLeadingTrigger steps).map unnumbered
  · rw [repair, hasLeadingTrigger_reindex]
    exact hasLeadingTrigger_ensureLeadingTrigger
  · rintro front t back rfl hfront ht
    rw [hcontent, ensureLeadingTrigger_append hfront ht, List.map_cons]
  · intro hnone
    rw [hcontent, ensureLeadingTrigger_of_forall_not hnone]

/-! ### Places -/

/-- The trigger at a place is moved by repair: it is the first one and not in front already. -/
def IsMoved (steps : List Step) (i : Nat) : Prop :=
  steps.findIdx? isTrigger = some i ∧ 0 < i

/-- Where the step at a place of a list stands when the list is repaired. -/
def placeAfter (steps : List Step) (i : Nat) : Nat :=
  match steps.findIdx? isTrigger with
  | none => i
  | some first => if i < first then i + 1 else if i = first then 0 else i

theorem placeAfter_of_findIdx? (h : steps.findIdx? isTrigger = some j) :
    placeAfter steps i = if i < j then i + 1 else if i = j then 0 else i := by
  rw [placeAfter, h]

theorem placeAfter_inj : placeAfter steps i = placeAfter steps j ↔ i = j := by
  unfold placeAfter
  cases steps.findIdx? isTrigger with
  | none => rfl
  | some first => grind

theorem getElem?_ensureLeadingTrigger (steps : List Step) (i : Nat) :
    (ensureLeadingTrigger steps)[placeAfter steps i]? = steps[i]? := by
  rcases forall_not_or_exists_first steps with hnone | ⟨front, t, back, rfl, hfront, ht⟩
  · have hfirst : steps.findIdx? isTrigger = none :=
      List.findIdx?_eq_none_iff.2 fun s hs => by simpa using hnone s hs
    rw [ensureLeadingTrigger_of_forall_not hnone, placeAfter, hfirst]
  · have hfirst : (front ++ t :: back).findIdx? isTrigger = some front.length := by
      rw [List.findIdx?_append, List.findIdx?_eq_none_iff.2 fun s hs => by simpa using hfront s hs,
        List.findIdx?_cons, if_pos ht]
      simp
    rw [ensureLeadingTrigger_append hfront ht, placeAfter_of_findIdx? hfirst]
    rcases Nat.lt_trichotomy i front.length with hbefore | rfl | hbehind
    · rw [if_pos hbefore, List.getElem?_cons_succ, List.getElem?_append_left hbefore,
        List.getElem?_append_left hbefore]
    · simp
    · obtain ⟨k, rfl⟩ := Nat.exists_eq_add_of_lt hbehind
      rw [if_neg (by omega), if_neg (by omega), List.getElem?_cons_succ, List.getElem?_append_right (by omega),
        List.getElem?_append_right (by omega), Nat.add_assoc, Nat.add_sub_cancel_left, Nat.add_sub_cancel_left,
        List.getElem?_cons_succ]

/-- Every step stands at its place, with the number of the place. -/
theorem getElem?_repair (steps : List Step) (i : Nat) :
    (repair steps)[placeAfter steps i]? =
      steps[i]?.map fun s => { s with index := placeAfter steps i + 1 } := by
  rw [repair, getElem?_reindex, getElem?_ensureLeadingTrigger]

/-! ### Handlers -/

/-- Right before a place of a list stands a given step, perhaps with another number. -/
def StandsBehind (steps : List Step) (i : Nat) (s : Step) : Prop :=
  ∃ j t, i = j + 1 ∧ steps[j]? = some t ∧ t.unnumbered = s.unnumbered

/-- Repair leaves every error handler behind the step that it guards, and puts a handler that guards none
behind no other step than the trigger that it moves. -/
structure HandlersStay (steps : List Step) : Prop where
  /-- A handler that stands behind a step still stands behind it. -/
  guarding : ∀ i s handler, steps[i]? = some s → steps[i + 1]? = some handler → handler.isErrorHandler →
    StandsBehind (repair steps) (placeAfter steps (i + 1)) s
  /-- A handler in front stands behind nothing but the moved trigger. -/
  leading : ∀ handler, steps[0]? = some handler → handler.isErrorHandler →
    ∀ s, StandsBehind (repair steps) (placeAfter steps 0) s →
      ∃ i t, IsMoved steps i ∧ steps[i]? = some t ∧ t.unnumbered = s.unnumbered

theorem not_isTrigger_of_isErrorHandler (h : s.isErrorHandler) : ¬s.isTrigger := by
  intro ht
  rw [isErrorHandler, beq_iff_eq] at h
  rw [isTrigger, h] at ht
  cases ht

theorem standsBehind_repair (h : steps[i]? = some s) :
    StandsBehind (repair steps) (placeAfter steps i + 1) s := by
  refine ⟨placeAfter steps i, { s with index := placeAfter steps i + 1 }, rfl, ?_, rfl⟩
  rw [getElem?_repair, h, Option.map_some]

/-- What stands right before a place is known up to its number. -/
theorem unnumbered_of_standsBehind (hs : StandsBehind steps i s) (ht : StandsBehind steps i t) :
    s.unnumbered = t.unnumbered := by
  obtain ⟨j, a, rfl, ha, has⟩ := hs
  obtain ⟨j', b, hj, hb, hbt⟩ := ht
  obtain rfl : j = j' := Nat.succ.inj hj
  rw [← has, ← hbt, Option.some.inj (ha.symm.trans hb)]

theorem isTrigger_of_findIdx? (h : steps.findIdx? isTrigger = some i) (hs : steps[i]? = some s) : s.isTrigger := by
  obtain ⟨hi, ht, -⟩ := List.findIdx?_eq_some_iff_getElem.1 h
  rw [List.getElem?_eq_getElem hi] at hs
  exact Option.some.inj hs ▸ ht

/-- Neighbours remain neighbours if the second one is no trigger and the first one is not moved. -/
theorem placeAfter_succ (hmoved : ¬IsMoved steps i) (hs : steps[i + 1]? = some s) (ht : ¬s.isTrigger) :
    placeAfter steps (i + 1) = placeAfter steps i + 1 := by
  cases hfirst : steps.findIdx? isTrigger with
  | none => simp [placeAfter, hfirst]
  | some first =>
    have hnext : i + 1 ≠ first := fun h => ht (isTrigger_of_findIdx? (h ▸ hfirst) hs)
    have hhere : first = i → i = 0 := fun h => by
      by_contra hne
      exact hmoved ⟨h ▸ hfirst, Nat.pos_of_ne_zero hne⟩
    rw [placeAfter_of_findIdx? hfirst, placeAfter_of_findIdx? hfirst]
    grind

/-- The step behind the moved trigger comes to stand behind the step before it. -/
theorem placeAfter_behind_moved (hmoved : IsMoved steps (i + 1)) :
    placeAfter steps (i + 2) = placeAfter steps i + 1 := by
  rw [placeAfter_of_findIdx? hmoved.1, placeAfter_of_findIdx? hmoved.1]
  grind

theorem not_isTrigger_before_moved (hmoved : IsMoved steps (i + 1)) (hs : steps[i]? = some s) : ¬s.isTrigger := by
  obtain ⟨hi, -, hbefore⟩ := List.findIdx?_eq_some_iff_getElem.1 hmoved.1
  have h := hbefore i (Nat.lt_succ_self i)
  rw [List.getElem?_eq_getElem (by omega)] at hs
  exact Option.some.inj hs ▸ h

theorem standsBehind_of_moved (hmoved : IsMoved steps (i + 1)) (hs : steps[i]? = some s) :
    StandsBehind (repair steps) (placeAfter steps (i + 2)) s := by
  rw [placeAfter_behind_moved hmoved]
  exact standsBehind_repair hs

/-- A handler stands behind the same step as before if and only if that step is not the moved trigger. -/
theorem standsBehind_repair_iff (hs : steps[i]? = some s) (hhandler : steps[i + 1]? = some handler)
    (herror : handler.isErrorHandler) :
    StandsBehind (repair steps) (placeAfter steps (i + 1)) s ↔ ¬IsMoved steps i := by
  constructor
  · intro hstay hmoved
    obtain ⟨k, rfl⟩ : ∃ k, i = k + 1 := Nat.exists_eq_succ_of_ne_zero (Nat.ne_of_gt hmoved.2)
    obtain ⟨a, ha⟩ : ∃ a, steps[k]? = some a := by
      have hk : k + 1 < steps.length := (List.getElem?_eq_some_iff.1 hs).1
      exact ⟨steps[k], List.getElem?_eq_getElem (by omega)⟩
    -- the step before the trigger is none, so it is another step than the trigger
    have hsame := unnumbered_of_standsBehind (standsBehind_of_moved hmoved ha) hstay
    have hkind : a.isTrigger = s.isTrigger := by
      rw [← isTrigger_unnumbered a, hsame, isTrigger_unnumbered]
    exact not_isTrigger_before_moved hmoved ha (hkind.trans (isTrigger_of_findIdx? hmoved.1 hs))
  · intro hmoved
    rw [placeAfter_succ hmoved hhandler (not_isTrigger_of_isErrorHandler herror)]
    exact standsBehind_repair hs

/-- A handler in front of the list comes to stand behind the moved trigger or stays in front. -/
theorem exists_moved_of_standsBehind (hhandler : steps[0]? = some handler) (herror : handler.isErrorHandler)
    (hs : StandsBehind (repair steps) (placeAfter steps 0) s) :
    ∃ i t, IsMoved steps i ∧ steps[i]? = some t ∧ t.unnumbered = s.unnumbered := by
  cases hfirst : steps.findIdx? isTrigger with
  | none =>
    obtain ⟨j, -, hj, -⟩ := hs
    rw [placeAfter, hfirst] at hj
    exact absurd hj (Nat.succ_ne_zero j).symm
  | some first =>
    have hpos : 0 < first := by
      refine Nat.pos_of_ne_zero fun hzero => not_isTrigger_of_isErrorHandler herror ?_
      exact isTrigger_of_findIdx? (hzero ▸ hfirst) hhandler
    obtain ⟨hlt, -, -⟩ := List.findIdx?_eq_some_iff_getElem.1 hfirst
    have ht : steps[first]? = some steps[first] := List.getElem?_eq_getElem hlt
    refine ⟨first, steps[first], ⟨hfirst, hpos⟩, ht, ?_⟩
    -- the trigger comes to stand in front, right before the handler
    have hplaces : placeAfter steps 0 = placeAfter steps first + 1 := by
      rw [placeAfter_of_findIdx? hfirst, placeAfter_of_findIdx? hfirst]
      simp [hpos]
    exact unnumbered_of_standsBehind (hplaces ▸ standsBehind_repair ht) hs

/-- **Which handlers repair leaves where they are.** Every step comes to stand at a place of its own. An
error handler stands behind the same step as before if and only if that step is not the moved trigger;
behind the moved trigger it comes to stand behind the step that stood before the trigger. A handler in front
of the list gets no other step before it than that trigger. So all handlers stay if and only if none stands
behind the moved trigger. -/
theorem handlersStay_iff (steps : List Step) :
    (∀ i, (repair steps)[placeAfter steps i]? =
      steps[i]?.map fun s => { s with index := placeAfter steps i + 1 }) ∧
    (∀ i j, placeAfter steps i = placeAfter steps j ↔ i = j) ∧
    (∀ i s handler, steps[i]? = some s → steps[i + 1]? = some handler → handler.isErrorHandler →
      (StandsBehind (repair steps) (placeAfter steps (i + 1)) s ↔ ¬IsMoved steps i)) ∧
    (∀ i s, IsMoved steps (i + 1) → steps[i]? = some s →
      StandsBehind (repair steps) (placeAfter steps (i + 2)) s) ∧
    (∀ handler, steps[0]? = some handler → handler.isErrorHandler →
      ∀ s, StandsBehind (repair steps) (placeAfter steps 0) s →
        ∃ i t, IsMoved steps i ∧ steps[i]? = some t ∧ t.unnumbered = s.unnumbered) ∧
    (HandlersStay steps ↔
      ∀ i handler, steps[i + 1]? = some handler → handler.isErrorHandler → ¬IsMoved steps i) := by
  refine ⟨getElem?_repair steps, fun _ _ => placeAfter_inj, fun i s handler => standsBehind_repair_iff,
    fun i s => standsBehind_of_moved, fun handler hhandler herror s => exists_moved_of_standsBehind hhandler herror,
    ?_⟩
  constructor
  · intro hstay i handler hhandler herror
    have hi : i + 1 < steps.length := (List.getElem?_eq_some_iff.1 hhandler).1
    have hs : steps[i]? = some steps[i] := List.getElem?_eq_getElem (by omega)
    exact (standsBehind_repair_iff hs hhandler herror).1 (hstay.guarding i _ handler hs hhandler herror)
  · intro hmoved
    refine ⟨fun i s handler hs hhandler herror => ?_, fun handler hhandler herror s => ?_⟩
    · exact (standsBehind_repair_iff hs hhandler herror).2 (hmoved i handler hhandler herror)
    · exact exists_moved_of_standsBehind hhandler herror

/-- A plan that logs a row before it watches an inbox, and sends an alert if the inbox cannot be read. -/
def watchedLate : List Step := [
  ⟨1, .action, "Log row", [], "sheets", none, false, none⟩,
  ⟨2, .trigger, "New mail", [], "gmail", none, false, none⟩,
  ⟨3, .errorHandler, "Alert", [], "slack", none, false, none⟩]

/-- When the plan is repaired, the alert is sent if the row cannot be logged. -/
theorem not_handlersStay_watchedLate :
    ¬HandlersStay watchedLate ∧ repair watchedLate = [
      ⟨1, .trigger, "New mail", [], "gmail", none, false, none⟩,
      ⟨2, .action, "Log row", [], "sheets", none, false, none⟩,
      ⟨3, .errorHandler, "Alert", [], "slack", none, false, none⟩] := by
  refine ⟨fun hstay => ?_, rfl⟩
  have hguarding := hstay.guarding 1 _ _ rfl rfl rfl
  exact (standsBehind_repair_iff rfl rfl rfl).1 hguarding ⟨rfl, Nat.zero_lt_one⟩

end Automation.Step
