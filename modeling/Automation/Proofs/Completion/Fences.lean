import Automation.Chars.Blank
import Automation.Completion.Fence
import Mathlib.Data.List.TakeWhile

/-!
# Where fences are

A text is cut at its first fence, and it is not cut if and only if it has none
(`cutAtFence_eq_none`). A text without a fence has no blocks, and a text between two fences is a
block if it has no backtick and begins with nothing that belongs to the opening fence
(`blocks_fenced`).
-/

namespace Automation.Completion

variable {c : CodePoint} {t b rest opened : Text}

theorem cutAtFence_eq_none : cutAtFence t = none ↔ ¬fence <:+: t := by
  induction t with
  | nil => simp [cutAtFence, fence]
  | cons c t ih =>
    rw [List.infix_cons_iff, ← List.isPrefixOf_iff_prefix, cutAtFence]
    split
    · simp [*]
    · simp [*]

theorem tick_mem_of_fence (h : fence <:+: t) : tick ∈ t :=
  h.subset List.mem_cons_self

/-- A text that begins a row of backticks ends with one. -/
theorem getLast?_of_prefix_fence (hne : b ≠ []) (h : b <+: fence) : b.getLast? = some tick := by
  have hticks : ∀ d ∈ fence, d = tick := by simp [fence]
  have hlast := List.getLast_mem hne
  rw [List.getLast?_eq_some_getLast hne, hticks _ (h.subset hlast)]

/-- What stands before the first fence, if it has no fence itself and does not end with a backtick. -/
theorem cutAtFence_append (hb : ¬fence <:+: b) (hlast : b.getLast? ≠ some tick) (rest : Text) :
    cutAtFence (b ++ (fence ++ rest)) = some (b, rest) := by
  induction b with
  | nil => simp [cutAtFence, fence]
  | cons c b ih =>
    rw [List.infix_cons_iff, not_or] at hb
    have hstart : ¬fence.isPrefixOf (c :: b ++ (fence ++ rest)) := by
      rw [List.isPrefixOf_iff_prefix]
      intro hprefix
      rcases List.prefix_or_prefix_of_prefix hprefix (List.prefix_append (c :: b) _) with h | h
      · exact hb.1 h
      · exact hlast (getLast?_of_prefix_fence (List.cons_ne_nil c b) h)
    have hlast' : b.getLast? ≠ some tick := fun h => hlast (by rw [List.getLast?_cons, h]; rfl)
    rw [List.cons_append] at hstart ⊢
    rw [cutAtFence, if_neg hstart, ih hb.2 hlast']
    rfl

theorem blocks_eq_nil (h : ¬fence <:+: t) : blocks t = [] := by
  have hcut := cutAtFence_eq_none.2 h
  unfold blocks
  split
  · rfl
  · simp_all

theorem blocks_eq_cons {before : Text} (hopen : cutAtFence t = some (before, opened))
    (hclose : cutAtFence (dropOpening opened) = some (b, rest)) : blocks t = b :: blocks rest := by
  rw [blocks]
  split
  · simp_all
  · rename_i opened' hopen'
    obtain ⟨-, rfl⟩ := Prod.mk.inj (Option.some.inj (hopen.symm.trans hopen'))
    split
    · simp_all
    · rename_i hclose'
      obtain ⟨rfl, rfl⟩ := Prod.mk.inj (Option.some.inj (hclose.symm.trans hclose'))
      rfl

/-- Whether what a fence opens can begin with a code point that does not belong to the fence. -/
def StartsBlock (c : CodePoint) : Prop :=
  isTagSpace c = false ∧ Chars.sameLetter 'j' c = false ∧ c ≠ '\r' ∧ c ≠ '\n'

instance : Decidable (StartsBlock c) :=
  inferInstanceAs (Decidable (_ ∧ _))

/-- What does not begin with the first letter of a tag has no tag. -/
theorem dropTag_eq_self (h : ∀ c, t.head? = some c → Chars.sameLetter 'j' c = false) : dropTag t = t := by
  cases t with
  | nil => rfl
  | cons c t =>
    have hne : List.zipWith Chars.sameLetter tag (c :: t) ≠ List.replicate tag.length true := fun heq => by
      have hhead : (List.zipWith Chars.sameLetter tag (c :: t)).head? = some (Chars.sameLetter 'j' c) := rfl
      rw [heq, h c rfl] at hhead
      cases hhead
    rw [dropTag, if_neg hne]

theorem dropFirst_of_ne {d : CodePoint} (h : t.head? ≠ some d) : dropFirst d t = t := by
  rw [dropFirst, if_neg h]

theorem dropOpening_of_startsBlock (h : StartsBlock c) : dropOpening (c :: t) = c :: t := by
  obtain ⟨hspace, hletter, hreturn, hfeed⟩ := h
  have hdrop : (c :: t).dropWhile isTagSpace = c :: t := by simp [hspace]
  have htag : dropTag (c :: t) = c :: t := dropTag_eq_self fun d hd => Option.some.inj hd ▸ hletter
  have hfirst : ∀ d : CodePoint, c ≠ d → dropFirst d (c :: t) = c :: t := fun d hd =>
    dropFirst_of_ne (by simpa using hd)
  simp only [dropOpening, hdrop, htag, hfirst _ hreturn, hfirst _ hfeed]

/-- A text between two fences is a block. -/
theorem blocks_fenced (hc : StartsBlock c) (hb : tick ∉ c :: b) (rest : Text) :
    blocks (fence ++ (c :: b ++ (fence ++ rest))) = (c :: b) :: blocks rest := by
  have hopened : dropOpening (c :: b ++ (fence ++ rest)) = c :: b ++ (fence ++ rest) :=
    dropOpening_of_startsBlock hc
  have hlast : (c :: b).getLast? ≠ some tick := fun h => hb (List.mem_of_getLast? h)
  refine blocks_eq_cons (cutAtFence_append (b := []) (by decide) nofun _) ?_
  rw [hopened]
  exact cutAtFence_append (fun h => hb (tick_mem_of_fence h)) hlast rest

/-! ### Trimming -/

theorem trim_of_not_blank (h : ∀ c ∈ t, Chars.isBlank c = false) : t.trim = t := by
  have hdrop : ∀ t : Text, (∀ c ∈ t, Chars.isBlank c = false) → t.dropWhile Chars.isBlank = t := by
    intro t h
    cases t with
    | nil => rfl
    | cons c t => simp [h c List.mem_cons_self]
  rw [Text.trim, Text.trimEnd, Text.trimStart, hdrop t h, hdrop t.reverse (by simpa using h),
    List.reverse_reverse]

end Automation.Completion
