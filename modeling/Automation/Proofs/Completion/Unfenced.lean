import Automation.Proofs.Completion.Fences
import Automation.Proofs.Json.ReadBack

/-!
# Documents without fences

A document has a fence only if one of its texts has. Backticks are written as they are, so a fence in
a text stays one; but none comes about, because whatever else is written, escapes included, has no
backtick and stands between any two texts.
-/

namespace Automation.Completion

open Json

variable {c : CodePoint} {e t x y : Text} {style : Style}

/-! ### Fences in parts of a text -/

theorem not_fence_of_not_mem (h : tick ∉ t) : ¬fence <:+: t := fun hfence => h (tick_mem_of_fence hfence)

theorem not_fence_nil : ¬fence <:+: ([] : Text) :=
  not_fence_of_not_mem List.not_mem_nil

/-- No fence reaches over a code point that is no backtick. -/
theorem not_fence_append_cons (hc : c ≠ tick) (hx : ¬fence <:+: x) (hy : ¬fence <:+: y) :
    ¬fence <:+: x ++ c :: y := by
  intro h
  rcases List.infix_append_iff.1 h with h | h | ⟨front, back, hfence, hfront, hback⟩
  · exact hx h
  · rcases List.infix_cons_iff.1 h with h | h
    · exact hc (List.cons_prefix_cons.1 h).1.symm
    · exact hy h
  · cases back with
    | nil =>
      rw [List.append_nil] at hfence
      exact hx (hfence ▸ hfront.isInfix)
    | cons d back =>
      have hmem : d ∈ fence := hfence ▸ List.mem_append_right front List.mem_cons_self
      have hd : d = tick := by simpa [fence] using hmem
      exact hc ((List.cons_prefix_cons.1 hback).1.symm.trans hd)

theorem not_fence_cons (hc : c ≠ tick) (hy : ¬fence <:+: y) : ¬fence <:+: c :: y :=
  not_fence_append_cons hc not_fence_nil hy

theorem not_fence_append (he : tick ∉ e) (hy : ¬fence <:+: y) : ¬fence <:+: e ++ y := by
  induction e with
  | nil => exact hy
  | cons c e ih =>
    rw [List.mem_cons, not_or] at he
    exact not_fence_cons (Ne.symm he.1) (ih he.2)

/-- No fence reaches from one text to another if something without backticks stands between. -/
theorem not_fence_between (hne : e ≠ []) (he : tick ∉ e) (hx : ¬fence <:+: x) (hy : ¬fence <:+: y) :
    ¬fence <:+: x ++ (e ++ y) := by
  obtain ⟨c, e, rfl⟩ := List.exists_cons_of_ne_nil hne
  rw [List.mem_cons, not_or] at he
  exact not_fence_append_cons (Ne.symm he.1) hx (not_fence_append he.2 hy)

theorem not_fence_join {texts : List Text} (hne : e ≠ []) (he : tick ∉ e) (h : ∀ t ∈ texts, ¬fence <:+: t) :
    ¬fence <:+: Text.join e texts := by
  induction texts with
  | nil => exact not_fence_nil
  | cons t texts ih =>
    rw [List.forall_mem_cons] at h
    cases texts with
    | nil =>
      rw [Text.join, List.intercalate_singleton]
      exact h.1
    | cons u texts =>
      rw [Text.join_cons_cons]
      exact not_fence_between hne he h.1 (ih h.2)

section Pieces

variable {f : CodePoint → Text}

/-- Backticks at the beginning come from backticks, if every other code point is written without. -/
theorem prefix_of_prefix_flatMap (hf : ∀ c, f c = [c] ∨ f c ≠ [] ∧ tick ∉ f c) {w : Text} (hw : ∀ d ∈ w, d = tick)
    (h : w <+: t.flatMap f) : w <+: t := by
  induction t generalizing w with
  | nil => exact h
  | cons c t ih =>
    cases w with
    | nil => exact List.nil_prefix
    | cons d w =>
      rw [List.forall_mem_cons] at hw
      rw [List.flatMap_cons] at h
      rcases hf c with hc | ⟨hne, hc⟩
      · rw [hc, List.singleton_append, List.cons_prefix_cons] at h
        exact List.cons_prefix_cons.2 ⟨h.1, ih hw.2 h.2⟩
      · obtain ⟨b, piece, hpiece⟩ := List.exists_cons_of_ne_nil hne
        rw [hpiece, List.cons_append, List.cons_prefix_cons] at h
        have hb : b = tick := h.1.symm.trans hw.1
        exact absurd (hpiece ▸ hb ▸ List.mem_cons_self) hc

theorem not_fence_flatMap (hf : ∀ c, f c = [c] ∨ f c ≠ [] ∧ tick ∉ f c) (h : ¬fence <:+: t) :
    ¬fence <:+: t.flatMap f := by
  induction t with
  | nil => exact h
  | cons c t ih =>
    rw [List.infix_cons_iff, not_or] at h
    rw [List.flatMap_cons]
    rcases hf c with hc | ⟨-, hc⟩
    · rw [hc, List.singleton_append, List.infix_cons_iff, not_or]
      refine ⟨fun hprefix => h.1 ?_, ih h.2⟩
      have hticks : ∀ d ∈ fence, d = tick := by simp [fence]
      rw [← List.singleton_append, ← hc, ← List.flatMap_cons] at hprefix
      exact prefix_of_prefix_flatMap hf hticks hprefix
    · exact not_fence_append hc (ih h.2)

end Pieces

/-! ### Texts in quotes -/

theorem tick_not_mem_escapeUnit {n : Nat} (h : n < 0x10000) : tick ∉ escapeUnit n := by
  obtain ⟨a, b, d, e, hdigits, hunit⟩ := exists_hexDigits_four h
  have hvalue {c : CodePoint} {n : Nat} (hc : hexValue c = some n) : tick ≠ c := by
    rintro rfl
    cases hc
  have hall := forall_mem_hexUnit hvalue hunit
  rw [escapeUnit, hdigits]
  intro hmem
  rcases List.mem_cons.1 hmem with h | hmem
  · exact absurd h (by decide)
  rcases List.mem_cons.1 hmem with h | hmem
  · exact absurd h (by decide)
  · exact hall tick hmem rfl

/-- A code point is written as it is, or without backticks. -/
theorem escape_cases (ascii : Bool) (c : CodePoint) :
    (escape? ascii c).getD [c] = [c] ∨ (escape? ascii c).getD [c] ≠ [] ∧ tick ∉ (escape? ascii c).getD [c] := by
  have hunit {n : Nat} (hn : n < 0x10000) : escapeUnit n ≠ [] ∧ tick ∉ escapeUnit n :=
    ⟨List.cons_ne_nil _ _, tick_not_mem_escapeUnit hn⟩
  have hwritten := writtenAs_escape? ascii c
  generalize escape? ascii c = escape at hwritten ⊢
  cases hwritten with
  | plain => exact .inl rfl
  | @letter letter _ hletter =>
    have hne : tick ≠ letter := by
      rintro rfl
      cases hletter
    exact .inr ⟨List.cons_ne_nil _ _, by simpa [hne] using (by decide : tick ≠ .ofChar '\\')⟩
  | unit hsmall => exact .inr (hunit hsmall)
  | pair _ =>
    obtain ⟨hne, hhigh⟩ := hunit (Nat.lt_of_le_of_lt (highHalf_le c) (by decide))
    obtain ⟨-, hlow⟩ := hunit (Nat.lt_of_le_of_lt (lowHalf_le c) (by decide))
    refine .inr ⟨List.append_ne_nil_of_left_ne_nil hne _, fun hmem => ?_⟩
    rcases List.mem_append.1 hmem with hmem | hmem
    · exact hhigh hmem
    · exact hlow hmem

/-- A fence between quotes was there before escapes were put in. -/
theorem not_fence_escaped (ascii : Bool) (h : ¬fence <:+: t) : ¬fence <:+: escaped ascii t :=
  not_fence_flatMap (escape_cases ascii) h

theorem not_fence_quoted (ascii : Bool) (h : ¬fence <:+: t) : ¬fence <:+: quoted ascii t := by
  have hend : ¬fence <:+: escaped ascii t ++ [.ofChar '"'] :=
    not_fence_append_cons (by decide) (not_fence_escaped ascii h) not_fence_nil
  rw [← List.append_nil (quoted ascii t), quoted_append]
  exact not_fence_cons (by decide) hend

/-! ### Values -/

/-- A value that is written without fences. -/
def Unfenced (style : Style) (v : Json) : Prop :=
  ∀ level, ¬fence <:+: writeAt style level v

theorem unfenced_null : Unfenced style null := fun _ => by
  rw [writeAt]
  exact not_fence_of_not_mem (by decide)

theorem unfenced_bool (b : Bool) : Unfenced style (bool b) := fun _ => by
  cases b
  all_goals
    rw [writeAt]
    exact not_fence_of_not_mem (by decide)

theorem unfenced_int (n : Int) : Unfenced style (int n) := by
  intro level
  refine not_fence_of_not_mem fun hmem => ?_
  rw [int, writeAt, ofString_writeInt] at hmem
  rcases List.mem_append.1 hmem with hsign | hdigit
  · split at hsign
    · exact absurd (List.mem_singleton.1 hsign) (by decide)
    · cases hsign
  · exact absurd (isDigit_of_mem_decimal hdigit) (by decide)

theorem unfenced_text (h : ¬fence <:+: t) : Unfenced style (text t) := fun _ => not_fence_quoted _ h

theorem tick_not_mem_lineBreak (hstyle : style.Spaced) (level : Nat) : tick ∉ style.lineBreak level := fun hmem =>
  absurd (isSpace_of_mem_lineBreak hstyle hmem) (by decide)

/-- Brackets add no fence to what stands in them. -/
theorem not_fence_bracketed (hstyle : style.Spaced) (level : Nat) {left right : String}
    (hleft : tick ∉ Text.ofString left)
    (hright : tick ∉ Text.ofString right ∧ Text.ofString right ≠ []) {texts : List Text}
    (h : ∀ t ∈ texts, ¬fence <:+: t) : ¬fence <:+: bracketed style level left right texts := by
  cases texts with
  | nil =>
    rw [bracketed]
    exact not_fence_append hleft (not_fence_of_not_mem hright.1)
  | cons t texts =>
    obtain ⟨gap, hseparator, hgap⟩ := separator_eq hstyle (level + 1)
    have hsep : tick ∉ style.separator (level + 1) := by
      rw [hseparator, List.mem_cons, not_or]
      exact ⟨by decide, fun hmem => absurd (hgap tick hmem) (by decide)⟩
    have hjoin := not_fence_join (hseparator ▸ List.cons_ne_nil _ _) hsep h
    have hfront : tick ∉ Text.ofString left ++ style.lineBreak (level + 1) := fun hmem =>
      (List.mem_append.1 hmem).elim hleft (tick_not_mem_lineBreak hstyle _)
    have hback : tick ∉ style.lineBreak level ++ Text.ofString right := fun hmem =>
      (List.mem_append.1 hmem).elim (tick_not_mem_lineBreak hstyle _) hright.1
    have hend := not_fence_between (List.append_ne_nil_of_right_ne_nil _ hright.2) hback hjoin not_fence_nil
    have hall := not_fence_append hfront hend
    rw [bracketed]
    · simpa using hall
    · exact fun h => List.cons_ne_nil _ _ h

theorem unfenced_array (hstyle : style.Spaced) {items : List Json} (h : ∀ item ∈ items, Unfenced style item) :
    Unfenced style (array items) := by
  intro level
  rw [writeAt, writeItems_eq]
  refine not_fence_bracketed hstyle level (by decide) (by decide) fun t ht => ?_
  obtain ⟨item, hitem, rfl⟩ := List.mem_map.1 ht
  exact h item hitem (level + 1)

theorem unfenced_object (hstyle : style.Spaced) {members : Members}
    (h : ∀ member ∈ members, ¬fence <:+: member.1 ∧ Unfenced style member.2) :
    Unfenced style (object members) := by
  intro level
  rw [writeAt, writeMembers_eq]
  refine not_fence_bracketed hstyle level (by decide) (by decide) fun t ht => ?_
  obtain ⟨member, hmember, rfl⟩ := List.mem_map.1 ht
  obtain ⟨hkey, hvalue⟩ := h member hmember
  rw [writeMember, List.append_assoc]
  exact not_fence_between (by decide) (by decide) (not_fence_quoted _ hkey) (hvalue (level + 1))

end Automation.Completion
