import Mathlib.Data.List.Basic
import Mathlib.Order.Lattice

/-!
# Sorted lists and lists without repetitions

Sorting is stable: what is tied keeps its order. Of items that are repeated the first place counts.
-/

namespace Automation

/-- Sorting keeps the order of what is tied. -/
theorem pairwise_mergeSort_of_tied {α : Type} {le : α → α → Bool} {R : α → α → Prop} {l : List α}
    (htrans : ∀ a b c, le a b → le b c → le a c) (htotal : ∀ a b, le a b || le b a) (h : l.Pairwise R) :
    (l.mergeSort le).Pairwise fun a b => le b a → R a b := by
  induction l with
  | nil => simp
  | cons a l ih =>
    obtain ⟨hfirst, hrest⟩ := List.pairwise_cons.1 h
    obtain ⟨front, back, hsorted, hsplit, hfront⟩ := List.mergeSort_cons htrans htotal a l
    have ih := ih hrest
    rw [hsplit, List.pairwise_append] at ih
    obtain ⟨hfronts, hbacks, hacross⟩ := ih
    have hmem : ∀ b ∈ front ++ back, b ∈ l := fun b hb => List.mem_mergeSort.1 (hsplit ▸ hb)
    rw [hsorted, List.pairwise_append, List.pairwise_cons]
    refine ⟨hfronts, ⟨fun b hb _ => hfirst b (hmem b (List.mem_append_right _ hb)), hbacks⟩, ?_⟩
    intro b hb c hc
    rcases List.mem_cons.1 hc with rfl | hc
    · -- what comes to stand in front of the first element is not tied with it
      intro htied
      simpa [htied] using hfront b hb
    · exact hacross b hb c hc

/-- Sorting by a key puts first what has the smaller key, and leaves items with one key in their order. -/
theorem pairwise_mergeSort_by {α β : Type} [LinearOrder β] (key : α → β) {R : α → α → Prop} {l : List α}
    (h : l.Pairwise R) :
    (l.mergeSort fun a b => decide (key a ≤ key b)).Pairwise fun a b =>
      key a < key b ∨ key a = key b ∧ R a b := by
  have htrans : ∀ a b c, decide (key a ≤ key b) → decide (key b ≤ key c) → decide (key a ≤ key c) := by
    simp only [decide_eq_true_eq]
    exact fun a b c => le_trans
  have htotal : ∀ a b, decide (key a ≤ key b) || decide (key b ≤ key a) := by
    simp only [Bool.or_eq_true, decide_eq_true_eq]
    exact fun a b => le_total _ _
  refine ((List.pairwise_mergeSort htrans htotal l).and (pairwise_mergeSort_of_tied htrans htotal h)).imp ?_
  intro a b hab
  simp only [decide_eq_true_eq] at hab
  rcases lt_or_eq_of_le hab.1 with hlt | heq
  · exact .inl hlt
  · exact .inr ⟨heq, hab.2 (le_of_eq heq.symm)⟩

section Repetitions

variable {α : Type} [BEq α] [LawfulBEq α]

theorem nodup_eraseDups : ∀ l : List α, l.eraseDups.Nodup
  | [] => List.nodup_nil
  | a :: rest => by
    rw [List.eraseDups_cons, List.nodup_cons]
    exact ⟨by simp [List.mem_eraseDups], nodup_eraseDups _⟩
termination_by l => l.length
decreasing_by exact Nat.lt_succ_of_le (List.length_filter_le _ _)

/-- Without repetitions, the items of a list that pass a test stand in the order of their first
places in the list. -/
theorem pairwise_idxOf_eraseDups (xs : List α) (p : α → Bool) :
    (xs.filter p).eraseDups.Pairwise fun a b => xs.idxOf a < xs.idxOf b := by
  induction xs generalizing p with
  | nil => simp
  | cons x rest ih =>
    -- no item of the tail of the list equals its head, so all places move by one
    have hmove : ∀ q : α → Bool, q x = false →
        (rest.filter q).eraseDups.Pairwise fun a b => (x :: rest).idxOf a < (x :: rest).idxOf b := by
      intro q hq
      refine (ih q).imp_of_mem fun {a b} ha hb hab => ?_
      have hne : ∀ c ∈ (rest.filter q).eraseDups, (x == c) = false := fun c hc => by
        have hqc := (List.mem_filter.1 (List.mem_eraseDups.1 hc)).2
        exact beq_eq_false_iff_ne.2 fun e => by simp [← e, hq] at hqc
      rw [List.idxOf_cons, List.idxOf_cons, hne a ha, hne b hb]
      exact Nat.succ_lt_succ hab
    cases hp : p x with
    | false => rw [List.filter_cons_of_neg (by simp [hp])]; exact hmove p hp
    | true =>
      rw [List.filter_cons_of_pos hp, List.eraseDups_cons, List.filter_filter, List.pairwise_cons]
      refine ⟨fun b hb => ?_, hmove _ (by simp)⟩
      have hne := (List.mem_filter.1 (List.mem_eraseDups.1 hb)).2
      simp only [Bool.and_eq_true, Bool.not_eq_true'] at hne
      rw [List.idxOf_cons_self, List.idxOf_cons, BEq.comm, hne.1]
      exact Nat.succ_pos _

end Repetitions

end Automation
