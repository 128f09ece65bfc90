import Automation.Proofs.Completion.Answer
import Automation.Proofs.Completion.Unfenced
import Automation.Proofs.Json.Endings
import Mathlib.Data.List.Forall2

/-!
# Fenced documents

A completion may hold a document of any kind between two fences, with a tag behind the first fence or
without, and say other things before and behind. What belongs to the opening fence ends where the document
or space in front of it begins: neither can be taken for a tag. A document does not end with a backtick, so
the fence behind it is the next one. Nothing in front of the first fence and nothing behind the block
matters.

Main statement: `read_fenced`.
-/

namespace Automation.Completion

open Json (isSpace)

variable {c d : CodePoint} {p q t x u g s₁ s₂ w₁ w₂ : Text} {v : Json}

/-! ### Space in front of a block -/

/-- A text with nothing but space in front of another one. -/
def SpaceBefore (x u : Text) : Prop :=
  ∃ gap, (∀ d ∈ gap, isSpace d) ∧ u = gap ++ x

theorem isSpace_of_isTagSpace (h : isTagSpace c) : isSpace c := by
  simp only [isTagSpace, Bool.or_eq_true, beq_iff_eq] at h
  rcases h with rfl | rfl <;> rfl

theorem sameLetter_of_isSpace (h : isSpace c) : Chars.sameLetter 'j' c = false := by
  rcases Json.isSpace_iff.1 h with rfl | rfl | rfl | rfl <;> decide

theorem SpaceBefore.dropWhile (hc : StartsBlock c) (h : SpaceBefore (c :: x) u) :
    SpaceBefore (c :: x) (u.dropWhile isTagSpace) := by
  obtain ⟨gap, hgap, rfl⟩ := h
  rw [List.dropWhile_append]
  split
  · exact ⟨[], nofun, by simp [hc.1]⟩
  · exact ⟨_, fun d hd => hgap d ((List.dropWhile_suffix _).subset hd), rfl⟩

theorem SpaceBefore.dropFirst (hd : c ≠ d) (h : SpaceBefore (c :: x) u) :
    SpaceBefore (c :: x) (dropFirst d u) := by
  obtain ⟨gap, hgap, rfl⟩ := h
  cases gap with
  | nil => exact ⟨[], nofun, dropFirst_of_ne (by simpa using hd)⟩
  | cons e gap =>
    rw [List.forall_mem_cons] at hgap
    by_cases he : e = d
    · exact ⟨gap, hgap.2, by simp [Completion.dropFirst, he]⟩
    · exact ⟨e :: gap, List.forall_mem_cons.2 hgap, dropFirst_of_ne (by simpa using he)⟩

theorem SpaceBefore.dropTag_eq (hc : StartsBlock c) (h : SpaceBefore (c :: x) u) : dropTag u = u := by
  obtain ⟨gap, hgap, rfl⟩ := h
  refine dropTag_eq_self fun d hd => ?_
  cases gap with
  | nil => exact Option.some.inj hd ▸ hc.2.1
  | cons e gap => exact Option.some.inj hd ▸ sameLetter_of_isSpace (hgap e List.mem_cons_self)

/-! ### Tags -/

/-- The letters of the tag in any case. -/
def IsTag (g : Text) : Prop :=
  List.Forall₂ (fun a b => Chars.sameLetter a b = true) tag g

instance : Decidable (IsTag g) :=
  inferInstanceAs (Decidable (List.Forall₂ _ _ _))

theorem zipWith_eq_replicate {letters : Text} (h : List.Forall₂ (fun a b => Chars.sameLetter a b = true) letters g)
    (t : Text) : List.zipWith Chars.sameLetter letters (g ++ t) = List.replicate letters.length true := by
  induction h with
  | nil => rfl
  | cons hletter _ ih => rw [List.cons_append, List.zipWith_cons_cons, hletter, ih]; rfl

theorem IsTag.dropTag_append (h : IsTag g) (t : Text) : dropTag (g ++ t) = t := by
  rw [dropTag, if_pos (zipWith_eq_replicate h t), h.length_eq, List.drop_left]

theorem IsTag.dropWhile_append (h : IsTag g) (t : Text) : (g ++ t).dropWhile isTagSpace = g ++ t := by
  obtain ⟨c, rest, hletter, -, rfl⟩ := List.forall₂_cons_left_iff.1 h
  have hspace : isTagSpace c = false := by
    by_contra hspace
    cases hletter.symm.trans (sameLetter_of_isSpace (isSpace_of_isTagSpace (Bool.not_eq_false _ ▸ hspace)))
  rw [List.cons_append, List.dropWhile_cons_of_neg (by simp [hspace])]

/-- What belongs to an opening fence is dropped up to space in front of the block. -/
theorem spaceBefore_dropOpening (hc : StartsBlock c) (hg : g = [] ∨ IsTag g) (hs₁ : ∀ d ∈ s₁, isTagSpace d)
    (hs₂ : ∀ d ∈ s₂, isTagSpace d) (hw : ∀ d ∈ w₁, isSpace d) :
    SpaceBefore (c :: x) (dropOpening (s₁ ++ (g ++ (s₂ ++ (w₁ ++ c :: x))))) := by
  have hbehind : SpaceBefore (c :: x) (s₂ ++ (w₁ ++ c :: x)) := by
    refine ⟨s₂ ++ w₁, fun d hd => ?_, (List.append_assoc ..).symm⟩
    exact (List.mem_append.1 hd).elim (fun hd => isSpace_of_isTagSpace (hs₂ d hd)) (hw d)
  have htag : SpaceBefore (c :: x) (dropTag ((s₁ ++ (g ++ (s₂ ++ (w₁ ++ c :: x)))).dropWhile isTagSpace)) := by
    rw [List.dropWhile_append_of_pos hs₁]
    rcases hg with rfl | hg
    · rw [List.nil_append, (hbehind.dropWhile hc).dropTag_eq hc]
      exact hbehind.dropWhile hc
    · rwa [hg.dropWhile_append, hg.dropTag_append]
  exact ((htag.dropWhile hc).dropFirst hc.2.2.1).dropFirst hc.2.2.2

/-! ### Documents as blocks -/

theorem startsBlock_of_beginsValue (hc : Json.BeginsValue c) : StartsBlock c := by
  have hmarks : ∀ d ∈ Text.ofString "0123456789-\"[\x7bntfNI", StartsBlock d := by decide
  exact hmarks c hc

theorem isBlank_of_isSpace (h : isSpace c) : Chars.isBlank c := by
  rcases Json.isSpace_iff.1 h with rfl | rfl | rfl | rfl <;> decide

/-- A text without blanks around it does not begin with one. -/
theorem trimStart_of_trim (h : t.trim = t) : t.trimStart = t := by
  have hsuffix : t.trimStart <:+ t := List.dropWhile_suffix _
  have hlength : t.length ≤ t.trimStart.length := by
    calc t.length = t.trim.length := by rw [h]
      _ ≤ t.trimStart.length := Text.length_trimEnd_le _
  exact hsuffix.eq_of_length (Nat.le_antisymm hsuffix.length_le hlength)

/-- Trimming takes off the space around a text, and nothing more if there are no blanks around it. -/
theorem trim_space_append (h : t.trim = t) (hne : t ≠ []) (hu : ∀ d ∈ u, isSpace d) (hw : ∀ d ∈ w₂, isSpace d) :
    Text.trim (u ++ (t ++ w₂)) = t := by
  have hstart := trimStart_of_trim h
  have hend : Text.trimEnd t = t := by
    rw [Text.trim, hstart] at h
    exact h
  have hfront : Text.trimStart (u ++ (t ++ w₂)) = t ++ w₂ := by
    rw [Text.trimStart, List.dropWhile_append_of_pos fun d hd => isBlank_of_isSpace (hu d hd), List.dropWhile_append,
      show t.dropWhile Chars.isBlank = t from hstart, if_neg (by simpa using hne)]
  have hback : Text.trimEnd (t ++ w₂) = Text.trimEnd t := by
    rw [Text.trimEnd, List.reverse_append, List.dropWhile_append_of_pos fun d hd =>
      isBlank_of_isSpace (hw d (List.mem_reverse.1 hd)), Text.trimEnd]
  rw [Text.trim, hfront, hback, hend]

theorem tick_not_mem_of_space (h : ∀ d ∈ u, isSpace d) : tick ∉ u :=
  Json.not_mem_of_space h (by decide)

/-- A document with space around it has no fence if it has none itself, and does not end with a backtick. -/
theorem unfenced_space_append [Limits] (h : Json.read t = .ok v) (hfence : ¬fence <:+: t)
    (hu : ∀ d ∈ u, isSpace d) (hw : ∀ d ∈ w₂, isSpace d) :
    ¬fence <:+: u ++ (t ++ w₂) ∧ (u ++ (t ++ w₂)).getLast? ≠ some tick := by
  obtain ⟨c, hlast, hc⟩ := Json.getLast?_of_read h
  have hne : c ≠ tick := by
    rintro rfl
    exact hc.elim (by decide) (by decide)
  rcases List.eq_nil_or_concat w₂ with rfl | ⟨w, e, rfl⟩
  · rw [List.append_nil]
    refine ⟨not_fence_append (tick_not_mem_of_space hu) hfence, ?_⟩
    rw [List.getLast?_append, hlast]
    simpa using hne
  · have htick := tick_not_mem_of_space hw
    refine ⟨not_fence_append (tick_not_mem_of_space hu) ?_, ?_⟩
    · have hend := not_fence_between (by simp) htick hfence not_fence_nil
      rwa [List.append_nil] at hend
    · rw [← List.append_assoc, List.concat_eq_append, ← List.append_assoc, List.getLast?_concat]
      rintro heq
      exact htick (Option.some.inj heq ▸ by simp)

/-- A document between two fences is, with space around it, the first block. -/
theorem exists_blocks_fenced [Limits] (h : Json.read t = .ok v) (hfence : ¬fence <:+: t) (htrim : t.trim = t)
    (hp : ¬fence <:+: p) (hlast : p.getLast? ≠ some tick) (hg : g = [] ∨ IsTag g) (hs₁ : ∀ d ∈ s₁, isTagSpace d)
    (hs₂ : ∀ d ∈ s₂, isTagSpace d) (hw₁ : ∀ d ∈ w₁, isSpace d) (hw₂ : ∀ d ∈ w₂, isSpace d) (q : Text) :
    ∃ b, blocks (p ++ (fence ++ (s₁ ++ (g ++ (s₂ ++ (w₁ ++ (t ++ (w₂ ++ (fence ++ q))))))))) = b :: blocks q ∧
      b.trim = t := by
  obtain ⟨c, hhead, hc⟩ := Json.head?_of_read h
  obtain ⟨rest, rfl⟩ := List.head?_eq_some_iff.1 hhead
  have hbegins : Json.BeginsValue c := by
    refine hc.resolve_right fun hspace => ?_
    have hstart := trimStart_of_trim htrim
    rw [Text.trimStart, List.dropWhile_cons_of_pos (isBlank_of_isSpace hspace)] at hstart
    have := (List.dropWhile_suffix (l := rest) Chars.isBlank).length_le
    rw [hstart, List.length_cons] at this
    omega
  obtain ⟨gap, hgap, hopened⟩ := spaceBefore_dropOpening (x := rest ++ (w₂ ++ (fence ++ q)))
    (startsBlock_of_beginsValue hbegins) hg hs₁ hs₂ hw₁
  obtain ⟨hunfenced, hend⟩ := unfenced_space_append h hfence hgap hw₂
  refine ⟨gap ++ (c :: rest ++ w₂), blocks_eq_cons (cutAtFence_append hp hlast _) ?_,
    trim_space_append htrim (List.cons_ne_nil c rest) hgap hw₂⟩
  rw [List.cons_append, hopened]
  have hcut := cutAtFence_append hunfenced hend q
  simpa only [List.append_assoc, List.cons_append] using hcut

/-- **A document between fences is what is found**, whatever its kind, with a tag or without, and whatever
stands in front of the first fence and behind the second one. -/
theorem read_fenced [Limits] (h : Json.read t = .ok v) (hfence : ¬fence <:+: t) (htrim : t.trim = t)
    (hp : ¬fence <:+: p) (hlast : p.getLast? ≠ some tick) (hg : g = [] ∨ IsTag g) (hs₁ : ∀ d ∈ s₁, isTagSpace d)
    (hs₂ : ∀ d ∈ s₂, isTagSpace d) (hw₁ : ∀ d ∈ w₁, isSpace d) (hw₂ : ∀ d ∈ w₂, isSpace d) :
    read (p ++ fence ++ (s₁ ++ g ++ s₂) ++ w₁ ++ t ++ w₂ ++ fence ++ q) = .ok (.value v) := by
  obtain ⟨b, hblocks, hb⟩ := exists_blocks_fenced h hfence htrim hp hlast hg hs₁ hs₂ hw₁ hw₂ q
  have hne : t ≠ [] := by
    rintro rfl
    exact Json.not_malformed_of_ok h Json.malformed_nil
  simp only [List.append_assoc]
  refine read_of_ok (decides_candidates ⟨[], (blocks q).map Text.trim, ?_, nofun⟩ hne) h
  rw [hblocks, List.map_cons, hb, List.nil_append]

open scoped Limits in
/-- Neither an object before the fences, nor backticks in the document, nor another fenced document behind
it keep a document from being found. -/
theorem read_fenced_array :
    Json.read "[1, \"\x60\x60\"]" = .ok (.array [.int 1, .text "\x60\x60"]) ∧
      read ("Not \x7b\"a\": 1\x7d but " ++ fence ++ (" " ++ "jSoN" ++ "\t ") ++ "\r\n\t" ++ "[1, \"\x60\x60\"]"
          ++ " \n" ++ fence ++ "\x60 or \x60\x60\x602\x60\x60\x60") =
        .ok (.value (.array [.int 1, .text "\x60\x60"])) := by
  have hread : Json.read "[1, \"\x60\x60\"]" = .ok (.array [.int 1, .text "\x60\x60"]) :=
    Json.toOption_eq_some.1 (by decide +kernel)
  have htag : IsTag "jSoN" := by decide +kernel
  have htrim : Text.trim "[1, \"\x60\x60\"]" = Text.ofString "[1, \"\x60\x60\"]" := by decide +kernel
  exact ⟨hread, read_fenced hread (by decide +kernel) htrim (by decide +kernel) (by decide) (.inr htag) (by decide)
    (by decide) (by decide) (by decide)⟩

end Automation.Completion
