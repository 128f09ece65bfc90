import Automation.Proofs.Json.Document

/-!
# Where documents begin and end

A value begins with a mark, a digit or the first letter of a word, and it ends with a mark, a digit or the
last letter of a word. So the first and the last code point of a document are one of these, or space, whatever
stands in its texts.
-/

namespace Automation.Json

variable {c d : CodePoint} {w t t₁ rest opening : Text} {v : Json} {depth : Nat}

/-- A code point that a value can begin with. -/
def BeginsValue (c : CodePoint) : Prop :=
  c ∈ Text.ofString "0123456789-\"[\x7bntfNI"

instance : Decidable (BeginsValue c) :=
  inferInstanceAs (Decidable (_ ∈ _))

/-- A code point that a value can end with. -/
def EndsValue (c : CodePoint) : Prop :=
  c ∈ Text.ofString "0123456789\"]\x7delNy"

instance : Decidable (EndsValue c) :=
  inferInstanceAs (Decidable (_ ∈ _))

/-- A value can begin and end with a digit. -/
theorem value_of_isDigit (h : c.isDigit) : BeginsValue c ∧ EndsValue c := by
  have hdigits : ∀ k ∈ List.range 10, BeginsValue (.ofNat (48 + k)) ∧ EndsValue (.ofNat (48 + k)) := by decide
  simp only [CodePoint.isDigit, CodePoint.isBetween, Bool.and_eq_true, decide_eq_true_eq] at h
  have hlow : 48 ≤ c.value := h.1
  have hhigh : c.value ≤ 57 := h.2
  have hc := hdigits (c.value - 48) (List.mem_range.2 (by omega))
  rwa [Nat.add_sub_cancel' hlow, CodePoint.ofNat_value] at hc

/-! ### Beginnings -/

theorem beginsValue_of_readNumber {n : Number} (h : readNumber (c :: t) = .ok (n, rest)) : BeginsValue c := by
  obtain ⟨d, t₁, hd, heq | heq⟩ := exists_digit_of_readNumber h
  · exact (List.cons.inj heq).1 ▸ (value_of_isDigit hd).1
  · exact (List.cons.inj heq).1 ▸ by decide

theorem beginsValue_of_readLeaf (h : readLeaf t = .ok (v, rest)) : ∃ c t₁, t = c :: t₁ ∧ BeginsValue c := by
  have hwords : ∀ p ∈ words, ∃ c w, p.1 = c :: w ∧ BeginsValue c := by
    simp only [words, List.forall_mem_cons]
    exact ⟨⟨_, _, rfl, by decide⟩, ⟨_, _, rfl, by decide⟩, ⟨_, _, rfl, by decide⟩, ⟨_, _, rfl, by decide⟩,
      ⟨_, _, rfl, by decide⟩, ⟨_, _, rfl, by decide⟩, List.forall_mem_nil _⟩
  rcases readLeaf_ok.1 h with hword | ⟨-, ⟨t₁, _, rfl, -⟩ | ⟨⟨c, t₁, rfl, -⟩, n, hn, -⟩⟩
  · obtain ⟨w, hw, rfl⟩ := mem_words_of_readWord hword
    obtain ⟨c, w, rfl, hc⟩ := hwords _ hw
    exact ⟨c, w ++ rest, rfl, hc⟩
  · exact ⟨_, t₁, rfl, by decide⟩
  · exact ⟨c, t₁, rfl, beginsValue_of_readNumber hn⟩

/-- What is read as a value begins as one. -/
theorem beginsValue_of_readValue (h : readValue depth t = .ok (v, rest)) :
    ∃ c t₁, t = c :: t₁ ∧ BeginsValue c := by
  cases depth with
  | zero => exact beginsValue_of_readLeaf (readValue_zero_ok.1 h).2
  | succ depth =>
    rcases readValue_succ_ok.1 h with ⟨t₁, rfl, -⟩ | ⟨t₁, rfl, -⟩ | ⟨-, h⟩
    · exact ⟨_, t₁, rfl, by decide⟩
    · exact ⟨_, t₁, rfl, by decide⟩
    · exact beginsValue_of_readLeaf h

/-! ### Endings -/

/-- What is left of a text after a piece that ends as a value does. -/
def Ends (t rest : Text) : Prop :=
  ∃ c, EndsValue c ∧ c :: rest <:+ t

theorem Ends.of_suffix (h : Ends t₁ rest) (hsuffix : t₁ <:+ t) : Ends t rest := by
  obtain ⟨c, hc, hrest⟩ := h
  exact ⟨c, hc, hrest.trans hsuffix⟩

theorem Ends.of_append_cons (hc : EndsValue c) (h : t = w ++ c :: rest) : Ends t rest :=
  ⟨c, hc, h ▸ List.suffix_append w (c :: rest)⟩

theorem Ends.of_leaves (hc : EndsValue c) (h : Leaves t (c :: rest)) : Ends t rest := by
  obtain ⟨w, -, heq⟩ := h
  exact .of_append_cons hc heq

theorem Ends.suffix (h : Ends t rest) : rest <:+ t := by
  obtain ⟨c, -, hrest⟩ := h
  exact (List.suffix_cons c rest).trans hrest

/-- If nothing more is taken the end stays, and otherwise it moves on. -/
theorem Ends.trans (h : Ends t t₁) (h' : rest = t₁ ∨ Ends t₁ rest) : Ends t rest := by
  rcases h' with rfl | h'
  · exact h
  · exact h'.of_suffix h.suffix

theorem ends_append (hlast : w.getLast? = some c) (hc : EndsValue c) (rest : Text) : Ends (w ++ rest) rest := by
  obtain ⟨front, rfl⟩ := List.getLast?_eq_some_iff.1 hlast
  exact .of_append_cons hc (List.append_assoc front [c] rest)

/-- Digits that are taken end a value. -/
theorem ends_append_digits (hne : w ≠ []) (hdigits : ∀ c ∈ w, c.isDigit) (rest : Text) : Ends (w ++ rest) rest :=
  ends_append (List.getLast?_eq_some_getLast hne) (value_of_isDigit (hdigits _ (List.getLast_mem hne))).2 rest

theorem ends_readWord (h : readWord t = some (v, rest)) : Ends t rest := by
  have hwords : ∀ p ∈ words, ∃ c, p.1.getLast? = some c ∧ EndsValue c := by
    simp only [words, List.forall_mem_cons]
    exact ⟨⟨_, rfl, by decide⟩, ⟨_, rfl, by decide⟩, ⟨_, rfl, by decide⟩, ⟨_, rfl, by decide⟩,
      ⟨_, rfl, by decide⟩, ⟨_, rfl, by decide⟩, List.forall_mem_nil _⟩
  obtain ⟨w, hw, rfl⟩ := mem_words_of_readWord h
  obtain ⟨c, hlast, hc⟩ := hwords _ hw
  exact ends_append hlast hc rest

theorem ends_readPoints {written : List Written} (h : readPoints opening t = .ok (written, rest)) : Ends t rest := by
  fun_induction readPoints opening t generalizing written with
  | case1 | case3 | case5 | case6 | case8 | case9 => exact absurd h flawAt_ne_ok
  | case2 t =>
    obtain ⟨-, rfl⟩ := Prod.mk.inj (Except.ok.inj h)
    exact ⟨_, by decide, List.suffix_rfl⟩
  | case4 a b x d n c t hunit _ ih =>
    obtain ⟨⟨ws, _⟩, hws, heq⟩ := map_eq_ok.1 h
    obtain ⟨-, rfl⟩ := Prod.mk.inj heq
    exact (ih hws).of_suffix (List.suffix_append [_, _, a, b, x, d] (c :: t))
  | case7 e t _ p _ _ ih =>
    obtain ⟨⟨ws, _⟩, hws, heq⟩ := map_eq_ok.1 h
    obtain ⟨-, rfl⟩ := Prod.mk.inj heq
    exact (ih hws).of_suffix (List.suffix_append [_, e] t)
  | case10 c t _ _ _ ih =>
    obtain ⟨⟨ws, _⟩, hws, heq⟩ := map_eq_ok.1 h
    obtain ⟨-, rfl⟩ := Prod.mk.inj heq
    exact (ih hws).of_suffix (List.suffix_cons c t)

theorem ends_drop_digits (hbegins : w <+: t) (hne : w ≠ []) (hdigits : ∀ c ∈ w, c.isDigit) :
    Ends t (t.drop w.length) := by
  obtain ⟨rest, rfl⟩ := hbegins
  rw [List.drop_left]
  exact ends_append_digits hne hdigits rest

theorem ends_behindWhole (h : wholePart t ≠ []) : Ends t (behindWhole t) :=
  ends_drop_digits (prefix_wholePart t) h fun _ => isDigit_of_mem_wholePart

theorem ends_behindFraction (t : Text) : behindFraction t = t ∨ Ends t (behindFraction t) := by
  cases t with
  | nil => exact .inl rfl
  | cons c t =>
    by_cases h : c = '.'
    · subst h
      simp only [behindFraction, fractionPart, if_true]
      split
      · exact .inl rfl
      · rename_i hne
        refine .inr (Ends.of_suffix ?_ (List.suffix_cons _ t))
        exact ends_drop_digits (List.takeWhile_prefix _) (by simpa using hne) fun c => List.mem_takeWhile_imp
    · exact .inl (by simp [behindFraction, fractionPart, h])

theorem suffix_signed (t : Text) : (Numeral.signed t).2 <:+ t := by
  obtain ⟨w, -, heq⟩ := leaves_signed t
  exact ⟨w, heq.symm⟩

theorem ends_exponentPart {power : Int} (h : exponentPart t = some (power, rest)) : Ends t rest := by
  cases t with
  | nil => simp [exponentPart] at h
  | cons c t =>
    by_cases hmark : c = 'e' ∨ c = 'E'
    · simp only [exponentPart, hmark, if_true, Option.ite_none_left_eq_some, Option.some.injEq,
        Prod.mk.injEq, List.isEmpty_iff] at h
      obtain ⟨hne, -, rfl⟩ := h
      have hdigits := ends_append_digits hne (fun _ => List.mem_takeWhile_imp)
        ((Numeral.signed t).2.dropWhile CodePoint.isDigit)
      rw [List.takeWhile_append_dropWhile] at hdigits
      exact hdigits.of_suffix ((suffix_signed t).trans (List.suffix_cons c t))
    · simp [exponentPart, hmark] at h

theorem ends_behindExponent (t : Text) : behindExponent t = t ∨ Ends t (behindExponent t) := by
  unfold behindExponent
  split
  · exact .inr (ends_exponentPart ‹_›)
  · exact .inl rfl

theorem ends_readNumber {n : Number} (h : readNumber t = .ok (n, rest)) : Ends t rest := by
  obtain ⟨hwhole, -, rfl⟩ := readNumber_ok.1 h
  obtain ⟨w, -, hsign⟩ := leaves_behindSign t
  have hbody : Ends (behindSign t) (behindExponent (behindFraction (behindWhole (behindSign t)))) :=
    ((ends_behindWhole hwhole).trans (ends_behindFraction _)).trans (ends_behindExponent _)
  exact hbody.of_suffix ⟨w, hsign.symm⟩

theorem ends_readLeaf (h : readLeaf t = .ok (v, rest)) : Ends t rest := by
  rcases readLeaf_ok.1 h with hword | ⟨-, ⟨t₁, text, rfl, htext, -⟩ | ⟨-, n, hnumber, -⟩⟩
  · exact ends_readWord hword
  · obtain ⟨written, hpoints, -⟩ := readText_ok.1 htext
    exact (ends_readPoints hpoints).of_suffix (List.suffix_cons _ t₁)
  · exact ends_readNumber hnumber

/-! ### Documents -/

theorem ends_readValue (h : readValue depth t = .ok (v, rest)) : Ends t rest := by
  cases depth with
  | zero => exact ends_readLeaf (readValue_zero_ok.1 h).2
  | succ depth =>
    rcases readValue_succ_ok.1 h with ⟨t₁, rfl, harray⟩ | ⟨t₁, rfl, hobject⟩ | ⟨-, hleaf⟩
    · have hleaves := leaves_readArray (takesLevel_readValue depth) harray
      exact (Ends.of_leaves (by decide) hleaves).of_suffix (List.suffix_cons _ t₁)
    · have hleaves := leaves_readObject (takesLevel_readValue depth) hobject
      exact (Ends.of_leaves (by decide) hleaves).of_suffix (List.suffix_cons _ t₁)
    · exact ends_readLeaf hleaf

/-- A document begins as a value does, or with space. -/
theorem head?_of_read [Limits] (h : read t = .ok v) :
    ∃ c, t.head? = some c ∧ (BeginsValue c ∨ isSpace c) := by
  obtain ⟨-, rest, hvalue, -⟩ := readWithin_ok.1 h
  obtain ⟨c, t₁, hskip, hc⟩ := beginsValue_of_readValue hvalue
  cases t with
  | nil => cases hskip
  | cons d t =>
    refine ⟨d, rfl, ?_⟩
    by_cases hspace : isSpace d
    · exact .inr hspace
    · rw [skipSpace, List.dropWhile_cons_of_neg hspace] at hskip
      exact .inl ((List.cons.inj hskip).1 ▸ hc)

/-- A document ends as a value does, or in space. -/
theorem getLast?_of_read [Limits] (h : read t = .ok v) :
    ∃ c, t.getLast? = some c ∧ (EndsValue c ∨ isSpace c) := by
  obtain ⟨-, rest, hvalue, hspace⟩ := readWithin_ok.1 h
  have hsuffix : skipSpace t <:+ t := List.dropWhile_suffix _
  obtain ⟨c, hc, front, rfl⟩ := (ends_readValue hvalue).of_suffix hsuffix
  rw [List.getLast?_append]
  cases hlast : (c :: rest).getLast? with
  | none => simp at hlast
  | some d =>
    refine ⟨d, rfl, ?_⟩
    rcases List.mem_cons.1 (List.mem_of_getLast? hlast) with rfl | hd
    · exact .inl hc
    · exact .inr (List.dropWhile_eq_nil_iff.1 hspace d hd)

end Automation.Json
