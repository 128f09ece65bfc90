import Automation.Proofs.Completion.Scanner
import Automation.Proofs.Json.Numerals

/-!
# What a reader takes is level

A reader that succeeds takes a piece from the front of the text and leaves the rest. The piece of
each reader is level in the sense of scanners: quotes are closed, escapes are complete and braces
match. So an object that is read is a level text in braces, which a scanner finds as one span.
-/

namespace Automation.Json

open Completion Completion.Scan

/-- What is left of a text after a level piece. -/
def Leaves (t rest : Text) : Prop :=
  ∃ piece, Level piece ∧ t = piece ++ rest

/-- A reader that takes something, and only level pieces. -/
def TakesLevel {α : Type} (r : Reader α) : Prop :=
  ∀ ⦃t a rest⦄, r t = .ok (a, rest) → Leaves t rest ∧ rest.length < t.length

section Pieces

variable {c : CodePoint} {t t₁ t₂ rest : Text}

theorem Leaves.refl (t : Text) : Leaves t t :=
  ⟨[], level_nil, rfl⟩

theorem Leaves.trans (h : Leaves t t₁) (h' : Leaves t₁ t₂) : Leaves t t₂ := by
  obtain ⟨w, hw, rfl⟩ := h
  obtain ⟨x, hx, rfl⟩ := h'
  exact ⟨w ++ x, hw.append hx, (List.append_assoc ..).symm⟩

theorem Leaves.cons (hc : IsPlain c) (h : Leaves t rest) : Leaves (c :: t) rest := by
  obtain ⟨w, hw, rfl⟩ := h
  exact ⟨c :: w, hw.cons hc, rfl⟩

theorem Leaves.length_le (h : Leaves t rest) : rest.length ≤ t.length := by
  obtain ⟨w, -, rfl⟩ := h
  simp

theorem leaves_drop {w : Text} (h : w <+: t) (hplain : ∀ c ∈ w, IsPlain c) :
    Leaves t (t.drop w.length) := by
  obtain ⟨rest, rfl⟩ := h
  exact ⟨w, level_of_plain hplain, by simp⟩

theorem leaves_dropWhile {p : CodePoint → Bool} (hplain : ∀ c, p c → IsPlain c) (t : Text) :
    Leaves t (t.dropWhile p) :=
  ⟨t.takeWhile p, level_of_plain fun c hc => hplain c (List.mem_takeWhile_imp hc),
    List.takeWhile_append_dropWhile.symm⟩

theorem isPlain_of_isSpace (h : isSpace c) : IsPlain c := by
  simp only [isSpace, Bool.or_eq_true, beq_iff_eq] at h
  rcases h with ((rfl | rfl) | rfl) | rfl <;> decide

theorem isPlain_of_isDigit (h : c.isDigit) : IsPlain c := by
  refine ⟨?_, ?_, ?_⟩ <;> rintro rfl <;> exact absurd h (by decide)

theorem leaves_skipSpace (t : Text) : Leaves t (skipSpace t) :=
  leaves_dropWhile (fun _ => isPlain_of_isSpace) t

end Pieces

/-! ### Texts -/

section Texts

variable {c : CodePoint} {opening t rest : Text}

/-- What is left of a text in quotes, of which nothing or a part has been read, after its closing
quote. -/
def LeavesText (t rest : Text) : Prop :=
  ∃ piece, t = piece ++ rest ∧ ∀ d, Through (inText d) piece (inside d)

theorem LeavesText.quote (rest : Text) : LeavesText ('"' :: rest) rest :=
  ⟨['"'], rfl, fun d => .step (next_inText_quote d) (Nat.succ_ne_zero d) .nil⟩

theorem LeavesText.cons (hquote : c ≠ '"') (hslash : c ≠ '\\') (h : LeavesText t rest) :
    LeavesText (c :: t) rest := by
  obtain ⟨w, rfl, hw⟩ := h
  exact ⟨c :: w, rfl, fun d => (hw d).text hquote hslash⟩

theorem LeavesText.escape (c : CodePoint) (h : LeavesText t rest) :
    LeavesText (.ofChar '\\' :: c :: t) rest := by
  obtain ⟨w, rfl, hw⟩ := h
  exact ⟨'\\' :: c :: w, rfl, fun d => (hw d).escape c⟩

theorem LeavesText.append {w : Text} (hw : ∀ c ∈ w, c ≠ '"' ∧ c ≠ '\\') (h : LeavesText t rest) :
    LeavesText (w ++ t) rest := by
  induction w with
  | nil => exact h
  | cons c w ih =>
    rw [List.forall_mem_cons] at hw
    exact (ih hw.2).cons hw.1.1 hw.1.2

/-- A hexadecimal digit is no quote and no backslash. -/
theorem hexValue_ne {n : Nat} (h : hexValue c = some n) : c ≠ '"' ∧ c ≠ '\\' := by
  constructor <;> rintro rfl
  · cases (show hexValue '"' = none by decide).symm.trans h
  · cases (show hexValue '\\' = none by decide).symm.trans h

theorem leavesText_readPoints {written : List Written} (h : readPoints opening t = .ok (written, rest)) :
    LeavesText t rest := by
  fun_induction readPoints opening t generalizing written with
  | case1 | case3 | case5 | case6 | case8 | case9 => exact absurd h flawAt_ne_ok
  | case2 t =>
    obtain ⟨-, rfl⟩ := Prod.mk.inj (Except.ok.inj h)
    exact .quote t
  | case4 a b x d n c t hunit _ ih =>
    obtain ⟨⟨ws, _⟩, hws, heq⟩ := map_eq_ok.1 h
    obtain ⟨-, rfl⟩ := Prod.mk.inj heq
    exact ((ih hws).append (forall_mem_hexUnit hexValue_ne hunit)).escape _
  | case7 e t _ p _ _ ih =>
    obtain ⟨⟨ws, _⟩, hws, heq⟩ := map_eq_ok.1 h
    obtain ⟨-, rfl⟩ := Prod.mk.inj heq
    exact (ih hws).escape e
  | case10 c t hquote hslash _ ih =>
    obtain ⟨⟨ws, _⟩, hws, heq⟩ := map_eq_ok.1 h
    obtain ⟨-, rfl⟩ := Prod.mk.inj heq
    exact (ih hws).cons hquote hslash

/-- A text in quotes is a level piece. -/
theorem takes_readText {text : Text} (h : readText '"' t = .ok (text, rest)) :
    Leaves (.ofChar '"' :: t) rest ∧ rest.length < (.ofChar '"' :: t : Text).length := by
  obtain ⟨written, hpoints, -⟩ := readText_ok.1 h
  obtain ⟨w, rfl, hw⟩ := leavesText_readPoints hpoints
  refine ⟨⟨'"' :: w, level_quoted hw, rfl⟩, ?_⟩
  simp only [List.length_cons, List.length_append]
  omega

end Texts

/-! ### Words and numbers -/

section Leaf

variable {t rest : Text}

theorem mem_words_of_readWord {v : Json} (h : readWord t = some (v, rest)) :
    ∃ w, (w, v) ∈ words ∧ t = w ++ rest := by
  obtain ⟨⟨w, value⟩, hw, heq⟩ := List.exists_of_findSome?_eq_some h
  by_cases hstart : w.isPrefixOf t
  · simp only [hstart, if_true, Option.some.injEq, Prod.mk.injEq] at heq
    obtain ⟨rfl, rfl⟩ := heq
    obtain ⟨rest, rfl⟩ := List.isPrefixOf_iff_prefix.1 hstart
    exact ⟨w, hw, by simp⟩
  · simp [hstart] at heq

theorem takes_of_mem_words {w : Text} {v : Json} (h : (w, v) ∈ words) :
    w ≠ [] ∧ ∀ c ∈ w, IsPlain c := by
  have hwords : ∀ p ∈ words, p.1 ≠ [] ∧ ∀ c ∈ p.1, IsPlain c := by decide
  exact hwords _ h

theorem takes_readWord {v : Json} (h : readWord t = some (v, rest)) :
    Leaves t rest ∧ rest.length < t.length := by
  obtain ⟨w, hw, rfl⟩ := mem_words_of_readWord h
  obtain ⟨hne, hplain⟩ := takes_of_mem_words hw
  refine ⟨⟨w, level_of_plain hplain, rfl⟩, ?_⟩
  have := List.length_pos_iff.2 hne
  rw [List.length_append]
  omega

theorem prefix_wholePart (t : Text) : wholePart t <+: t := by
  unfold wholePart
  split
  · rename_i h
    obtain ⟨rest, rfl⟩ := List.head?_eq_some_iff.1 h
    exact ⟨rest, rfl⟩
  · exact List.takeWhile_prefix _

theorem isDigit_of_mem_wholePart {c : CodePoint} (h : c ∈ wholePart t) : c.isDigit := by
  unfold wholePart at h
  split at h
  · rw [List.mem_singleton.1 h]
    decide
  · exact List.mem_takeWhile_imp h

theorem leaves_behindSign (t : Text) : Leaves t (behindSign t) := by
  cases t with
  | nil => exact .refl []
  | cons c t =>
    by_cases h : c = '-'
    · subst h
      exact .cons (by decide) (.refl t)
    · simpa [behindSign, h] using Leaves.refl (c :: t)

theorem leaves_behindWhole (t : Text) : Leaves t (behindWhole t) :=
  leaves_drop (prefix_wholePart t) fun _ hc => isPlain_of_isDigit (isDigit_of_mem_wholePart hc)

theorem leaves_behindFraction (t : Text) : Leaves t (behindFraction t) := by
  cases t with
  | nil => exact .refl []
  | cons c t =>
    by_cases h : c = '.'
    · subst h
      simp only [behindFraction, fractionPart, if_true]
      split
      · exact .refl _
      · exact .cons (by decide) (leaves_drop (List.takeWhile_prefix _) fun c hc =>
          isPlain_of_isDigit (List.mem_takeWhile_imp hc))
    · simpa [behindFraction, fractionPart, h] using Leaves.refl (c :: t)

theorem leaves_signed (t : Text) : Leaves t (Numeral.signed t).2 := by
  cases t with
  | nil => exact .refl []
  | cons c t =>
    by_cases hminus : c = '-'
    · subst hminus
      exact .cons (by decide) (.refl t)
    by_cases hplus : c = '+'
    · subst hplus
      exact .cons (by decide) (.refl t)
    · simpa [Numeral.signed, hminus, hplus] using Leaves.refl (c :: t)

theorem leaves_exponentPart {power : Int} (h : exponentPart t = some (power, rest)) : Leaves t rest := by
  cases t with
  | nil => simp [exponentPart] at h
  | cons c t =>
    by_cases hmark : c = 'e' ∨ c = 'E'
    · simp only [exponentPart, hmark, if_true, Option.ite_none_left_eq_some, Option.some.injEq,
        Prod.mk.injEq] at h
      obtain ⟨-, -, rfl⟩ := h
      have hplain : IsPlain c := by rcases hmark with rfl | rfl <;> decide
      exact .cons hplain ((leaves_signed t).trans (leaves_dropWhile (fun _ => isPlain_of_isDigit) _))
    · simp [exponentPart, hmark] at h

theorem leaves_behindExponent (t : Text) : Leaves t (behindExponent t) := by
  unfold behindExponent
  split
  · exact leaves_exponentPart ‹_›
  · exact .refl t

theorem takesLevel_readNumber : TakesLevel readNumber := by
  intro t n rest h
  obtain ⟨hwhole, -, rfl⟩ := readNumber_ok.1 h
  have hsign := leaves_behindSign t
  have hbehind := (leaves_behindFraction (behindWhole (behindSign t))).trans (leaves_behindExponent _)
  refine ⟨(hsign.trans (leaves_behindWhole _)).trans hbehind, ?_⟩
  -- The whole part is what makes the rest shorter.
  have hpos := List.length_pos_iff.2 hwhole
  have hlt : (behindWhole (behindSign t)).length < (behindSign t).length := by
    have := (prefix_wholePart (behindSign t)).length_le
    rw [behindWhole, List.length_drop]
    omega
  have := hsign.length_le
  have := hbehind.length_le
  omega

theorem takesLevel_readLeaf : TakesLevel readLeaf := by
  intro t v rest h
  rcases readLeaf_ok.1 h with hword | ⟨-, ⟨t₁, text, rfl, htext, -⟩ | ⟨-, n, hnumber, -⟩⟩
  · exact takes_readWord hword
  · exact takes_readText htext
  · exact takesLevel_readNumber hnumber

end Leaf

/-! ### Arrays and objects -/

section Levels

variable {α : Type} {part : Reader α} {item : Reader Json} {close : CodePoint} {flaw : Flaw}
  {depth : Nat} {t rest : Text}

/-- Of the parts of an array or an object what is left begins with the closing mark. -/
theorem leaves_readSeparated (hclose : close ≠ ',') (hpart : TakesLevel part) {bound : Nat} {parts : List α}
    (h : readSeparated part close flaw bound t = .ok (parts, rest)) : Leaves t (close :: rest) := by
  induction bound generalizing t parts with
  | zero => exact absurd h flawAt_ne_ok
  | succ bound ih =>
    obtain ⟨first, t₁, hfirst, hend⟩ := (readSeparated_ok hclose).1 h
    have hspace := (hpart hfirst).1.trans (leaves_skipSpace t₁)
    rcases hend with ⟨hrest, -⟩ | ⟨t₂, others, hcomma, hothers, -⟩
    · exact hrest ▸ hspace
    · have htail : Leaves (.ofChar ',' :: t₂) (close :: rest) :=
        .cons (by decide) ((leaves_skipSpace t₂).trans (ih hothers))
      exact hspace.trans (hcomma ▸ htail)

theorem takesLevel_readMember (hitem : TakesLevel item) : TakesLevel (readMember item) := by
  intro t member rest h
  obtain ⟨t₁, t₂, t₃, rfl, hkey, hcolon, hvalue⟩ := readMember_ok.1 h
  obtain ⟨hkey, hlt⟩ := takes_readText hkey
  obtain ⟨hvalue, hle⟩ := hitem hvalue
  have hspace := leaves_skipSpace t₂
  have htail : Leaves (.ofChar ':' :: t₃) rest := .cons (by decide) ((leaves_skipSpace t₃).trans hvalue)
  rw [← hcolon] at htail
  refine ⟨(hkey.trans hspace).trans htail, ?_⟩
  have := hspace.length_le
  have := htail.length_le
  omega

theorem leaves_readArray (hitem : TakesLevel item) {v : Json} (h : readArray item t = .ok (v, rest)) :
    Leaves t (']' :: rest) := by
  rcases readArray_ok.1 h with ⟨hrest, -⟩ | ⟨c, t₁, items, hrest, -, hitems, -⟩
  · exact hrest ▸ leaves_skipSpace t
  · exact (leaves_skipSpace t).trans (hrest ▸ leaves_readSeparated (by decide) hitem hitems)

theorem leaves_readObject (hitem : TakesLevel item) {v : Json} (h : readObject item t = .ok (v, rest)) :
    Leaves t ('\x7d' :: rest) := by
  rcases readObject_ok.1 h with ⟨hrest, -⟩ | ⟨c, t₁, members, hrest, -, hmembers, -⟩
  · exact hrest ▸ leaves_skipSpace t
  · exact (leaves_skipSpace t).trans
      (hrest ▸ leaves_readSeparated (by decide) (takesLevel_readMember hitem) hmembers)

theorem takesLevel_readValue (depth : Nat) : TakesLevel (readValue depth) := by
  induction depth with
  | zero =>
    intro t v rest h
    exact takesLevel_readLeaf (readValue_zero_ok.1 h).2
  | succ depth ih =>
    intro t v rest h
    rcases readValue_succ_ok.1 h with ⟨t₁, rfl, harray⟩ | ⟨t₁, rfl, hobject⟩ | ⟨-, hleaf⟩
    · have hleaves := leaves_readArray ih harray
      have := hleaves.length_le
      have hrest : Leaves (']' :: rest) rest := .cons (by decide) (.refl rest)
      refine ⟨.cons (by decide) (hleaves.trans hrest), ?_⟩
      simp only [List.length_cons] at this ⊢
      omega
    · have hleaves := leaves_readObject ih hobject
      have := hleaves.length_le
      obtain ⟨w, hw, rfl⟩ := hleaves
      refine ⟨⟨_, hw.braces, by simp⟩, ?_⟩
      simp only [List.length_cons] at this ⊢
      omega
    · exact takesLevel_readLeaf hleaf

end Levels

end Automation.Json
