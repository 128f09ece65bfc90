import Automation.Graph.Export
import Automation.Proofs.Catalog.Excerpt
import Mathlib.Data.List.DropRight

/-!
# File names of exports

The file name of an export goes into a header and into a path as it is, so it may hold nothing that has a
meaning there. It is made of the words of the name in lower case; there is at least one word, and what stands
between two of them is one hyphen. Such a text is in lower case itself and does not have the usual beginning
of a name, so it keeps its words when it is taken for a name (`exportFilename_of_isSlug`).

What the walk over the words gives is told without it: put one hyphen in the place of each run of other code
points than letters and digits (`hyphenated`), and take off the hyphens at the ends.

Main statement: `isSlug_exportFilename`.
-/

namespace Automation.WorkflowGraph

open Catalog (isTermPoint termRuns)

variable {t w lead gap current : Text} {words : List Text}

/-! ### Slugs -/

/-- One or more groups of letters and digits, with single hyphens between them. -/
inductive IsSlug : Text → Prop where
  /-- One group. -/
  | group {w : Text} : w ≠ [] → (∀ c ∈ w, isTermPoint c) → IsSlug w
  /-- A group, a hyphen and more groups. -/
  | joined {w t : Text} : w ≠ [] → (∀ c ∈ w, isTermPoint c) → IsSlug t → IsSlug (w ++ ("-" ++ t))

theorem isSlug_join (hne : words ≠ []) (hwords : ∀ w ∈ words, w ≠ [] ∧ ∀ c ∈ w, isTermPoint c) :
    IsSlug (Text.join "-" words) := by
  induction words with
  | nil => exact absurd rfl hne
  | cons w words ih =>
    obtain ⟨hw, hrest⟩ := List.forall_mem_cons.1 hwords
    cases words with
    | nil =>
      rw [Text.join, List.intercalate_singleton]
      exact .group hw.1 hw.2
    | cons x words =>
      rw [Text.join_cons_cons]
      exact .joined hw.1 hw.2 (ih (List.cons_ne_nil _ _) hrest)

/-- A slug begins with a letter or a digit. -/
theorem IsSlug.exists_head (h : IsSlug t) : ∃ c rest, t = c :: rest ∧ isTermPoint c := by
  cases h with
  | group hne hw | joined hne hw =>
    obtain ⟨c, rest, rfl⟩ := List.exists_cons_of_ne_nil hne
    exact ⟨c, _, rfl, hw c List.mem_cons_self⟩

/-- A slug ends with a letter or a digit. -/
theorem IsSlug.exists_last (h : IsSlug t) : ∃ front c, t = front ++ [c] ∧ isTermPoint c := by
  induction h with
  | group hne hw => exact ⟨_, _, (List.dropLast_append_getLast hne).symm, hw _ (List.getLast_mem hne)⟩
  | @joined w _ _ _ _ ih =>
    obtain ⟨front, c, rfl, hc⟩ := ih
    exact ⟨w ++ ("-" ++ front), c, by simp, hc⟩

theorem IsSlug.isTermPoint_or_hyphen (h : IsSlug t) : ∀ c ∈ t, isTermPoint c ∨ c = '-' := by
  induction h with
  | group _ hw => exact fun c hc => .inl (hw c hc)
  | joined _ hw _ ih =>
    intro c hc
    rcases List.mem_append.1 hc with hc | hc
    · exact .inl (hw c hc)
    · rcases List.mem_cons.1 hc with rfl | hc
      · exact .inr rfl
      · exact ih c hc

/-- The words of a name are groups of letters and digits. -/
theorem mem_slugWords {name : Text} (h : w ∈ slugWords name) : w ≠ [] ∧ ∀ c ∈ w, isTermPoint c := by
  have hrun : w ∈ slugWords name ↔ Catalog.IsTermRun name.lower w := Catalog.mem_termRuns nofun
  exact ⟨(hrun.1 h).1, (hrun.1 h).2.1⟩

/-! ### The name that a slug is -/

/-- The letters and digits of words are in lower case, and so is a hyphen. -/
theorem lower_of_isSlug (h : IsSlug t) : t.lower = t := by
  refine Text.lower_eq_self fun c hc => ?_
  rcases h.isTermPoint_or_hyphen c hc with hterm | rfl
  · simp only [isTermPoint, CodePoint.isLower, CodePoint.isDigit, CodePoint.isBetween, Bool.or_eq_true,
      Bool.and_eq_true, decide_eq_true_eq] at hterm
    have hpoint : 0x61 ≤ c.value ∧ c.value ≤ 0x7a ∨ 0x30 ≤ c.value ∧ c.value ≤ 0x39 := hterm
    omega
  · exact .inl (by decide)

/-- The usual beginning of a name begins with a capital letter. -/
theorem bareName_of_isSlug (h : IsSlug t) : bareName t = t := by
  obtain ⟨c, rest, rfl, hc⟩ := h.exists_head
  have hne : CodePoint.ofChar 'A' ≠ c := by
    rintro rfl
    exact absurd hc (by decide)
  obtain ⟨more, hmore⟩ : ∃ more, Assembler.titleStart = CodePoint.ofChar 'A' :: more := ⟨_, rfl⟩
  rw [bareName, hmore, List.isPrefixOf_cons_cons, beq_false_of_ne hne, Bool.false_and, if_neg Bool.false_ne_true]

theorem termRuns_append (hw : ∀ c ∈ w, isTermPoint c) (current t : Text) :
    termRuns current (w ++ t) = termRuns (w.reverse ++ current) t := by
  induction w generalizing current with
  | nil => rfl
  | cons c w ih =>
    obtain ⟨hc, hrest⟩ := List.forall_mem_cons.1 hw
    rw [List.cons_append, termRuns, if_pos hc, ih hrest, List.reverse_cons, List.append_assoc, List.singleton_append]

/-- The words of a slug are its groups. -/
theorem join_termRuns_of_isSlug (h : IsSlug t) : termRuns [] t ≠ [] ∧ Text.join "-" (termRuns [] t) = t := by
  induction h with
  | @group w hne hw =>
    have hruns : termRuns [] w = [w] := by
      rw [← List.append_nil w, termRuns_append hw, List.append_nil, List.append_nil, termRuns,
        if_neg (by simpa using hne), List.reverse_reverse]
    rw [hruns, Text.join, List.intercalate_singleton]
    exact ⟨List.cons_ne_nil _ _, rfl⟩
  | @joined w t hne hw _ ih =>
    obtain ⟨hsome, hjoin⟩ := ih
    have hhyphen : ¬isTermPoint (.ofChar '-') := by decide
    have hruns : termRuns [] (w ++ ("-" ++ t)) = w :: termRuns [] t := by
      rw [termRuns_append hw, List.append_nil]
      show termRuns w.reverse (.ofChar '-' :: t) = _
      rw [termRuns, if_neg hhyphen, if_neg (by simpa using hne), List.reverse_reverse]
    obtain ⟨x, more, hmore⟩ := List.exists_cons_of_ne_nil hsome
    rw [hruns, hmore, Text.join_cons_cons, ← hmore, hjoin]
    exact ⟨List.cons_ne_nil _ _, rfl⟩

/-- A workflow whose name is a slug is exported under its name. -/
theorem exportFilename_of_isSlug {g : WorkflowGraph} (h : IsSlug g.name) : g.exportFilename = g.name ++ ".json" := by
  obtain ⟨hsome, hjoin⟩ := join_termRuns_of_isSlug h
  have hwords : slugWords (bareName g.name) = termRuns [] g.name := by
    rw [bareName_of_isSlug h, slugWords, lower_of_isSlug h]
  rw [exportFilename, hwords]
  split
  · next hnil => exact absurd hnil hsome
  · rw [hjoin]

/-! ### Hyphens in the place of all else -/

/-- A text with one hyphen in the place of each run of other code points than letters and digits. `inGap` says
whether such a run has begun. -/
def hyphenated : Bool → Text → Text
  | _, [] => []
  | inGap, c :: rest =>
    if isTermPoint c then c :: hyphenated false rest
    else if inGap then hyphenated true rest
    else .ofChar '-' :: hyphenated true rest

/-- Whether a code point is a hyphen. -/
def isHyphen (c : CodePoint) : Bool :=
  c == '-'

theorem not_isHyphen {c : CodePoint} (hc : isTermPoint c) : ¬isHyphen c := by
  intro hhyphen
  rw [eq_of_beq hhyphen] at hc
  exact absurd hc (by decide)

/-- A text without the hyphens at its two ends. -/
def trimHyphens (t : Text) : Text :=
  (t.dropWhile isHyphen).rdropWhile isHyphen

/-- What a name gives for a file name: its letters and digits in lower case, without the usual beginning, and a
hyphen in the place of each run of other code points between them. -/
def slug (name : Text) : Text :=
  trimHyphens (hyphenated false (bareName name).lower)

/-- Between the words there is one hyphen, and there may be one behind them. -/
theorem exists_gap_behind (current t : Text) : ∃ gap : Text, (∀ c ∈ gap, isHyphen c) ∧
    current.reverse ++ hyphenated current.isEmpty t = Text.join "-" (termRuns current t) ++ gap := by
  induction t generalizing current with
  | nil =>
    refine ⟨[], nofun, ?_⟩
    cases current <;> simp [hyphenated, termRuns, Text.join]
  | cons c t ih =>
    by_cases hc : isTermPoint c
    · obtain ⟨gap, hgap, heq⟩ := ih (c :: current)
      refine ⟨gap, hgap, ?_⟩
      rw [termRuns, if_pos hc, ← heq]
      simp [hyphenated, hc]
    · obtain ⟨gap, hgap, heq⟩ := ih []
      have hrest : hyphenated true t = Text.join "-" (termRuns [] t) ++ gap := heq
      cases current with
      | nil => exact ⟨gap, hgap, by simp [hyphenated, termRuns, hc, hrest]⟩
      | cons d current =>
        have hhyphened : hyphenated (d :: current).isEmpty (c :: t) = "-" ++ hyphenated true t := by
          simp [hyphenated, hc, Text.ofString]
        rw [termRuns, if_neg hc, hhyphened, hrest]
        cases hruns : termRuns [] t with
        | nil => exact ⟨"-" ++ gap, List.forall_mem_cons.2 ⟨rfl, hgap⟩, by simp [Text.join]⟩
        | cons x more => exact ⟨gap, hgap, by simp [Text.join_cons_cons]⟩

theorem exists_gap_in_front (t : Text) :
    ∃ lead : Text, (∀ c ∈ lead, isHyphen c) ∧ hyphenated false t = lead ++ hyphenated true t := by
  cases t with
  | nil => exact ⟨[], nofun, rfl⟩
  | cons c t =>
    by_cases hc : isTermPoint c
    · exact ⟨[], nofun, by simp [hyphenated, hc]⟩
    · exact ⟨[.ofChar '-'], by simp [isHyphen], by simp [hyphenated, hc]⟩

/-- Hyphens around a slug are taken off, and nothing else. -/
theorem trimHyphens_of_isSlug (hlead : ∀ c ∈ lead, isHyphen c) (hgap : ∀ c ∈ gap, isHyphen c) (h : IsSlug t) :
    trimHyphens (lead ++ (t ++ gap)) = t := by
  obtain ⟨c, rest, hhead, hc⟩ := h.exists_head
  obtain ⟨front, d, hlast, hd⟩ := h.exists_last
  have hstart : (lead ++ (t ++ gap)).dropWhile isHyphen = t ++ gap := by
    rw [List.dropWhile_append_of_pos hlead, hhead, List.cons_append, List.dropWhile_cons_of_neg (not_isHyphen hc)]
  have hreverse : ∀ c ∈ gap.reverse, isHyphen c := fun c hc => hgap c (List.mem_reverse.1 hc)
  rw [trimHyphens, hstart, hlast, List.rdropWhile, List.reverse_append, List.dropWhile_append_of_pos hreverse,
    List.reverse_concat, List.dropWhile_cons_of_neg (not_isHyphen hd), ← List.reverse_concat, List.reverse_reverse]

theorem trimHyphens_of_forall (h : ∀ c ∈ t, isHyphen c) : trimHyphens t = [] := by
  rw [trimHyphens, List.dropWhile_eq_nil_iff.2 h, List.rdropWhile_nil]

/-- A name gives its words with single hyphens between them. -/
theorem slug_eq_join (name : Text) : slug name = Text.join "-" (slugWords (bareName name)) := by
  obtain ⟨lead, hlead, hstart⟩ := exists_gap_in_front (bareName name).lower
  obtain ⟨gap, hgap, hrest⟩ := exists_gap_behind [] (bareName name).lower
  have hrest' : hyphenated true (bareName name).lower = Text.join "-" (slugWords (bareName name)) ++ gap := hrest
  rw [slug, hstart, hrest']
  cases hwords : slugWords (bareName name) with
  | nil =>
    refine trimHyphens_of_forall fun c hc => ?_
    rcases List.mem_append.1 hc with hc | hc
    · exact hlead c hc
    · exact hgap c hc
  | cons x more =>
    rw [← hwords]
    exact trimHyphens_of_isSlug hlead hgap (isSlug_join (hwords ▸ List.cons_ne_nil _ _) fun w hw => mem_slugWords hw)

/-! ### File names -/

/-- What stands in the place of a name of which nothing is left. -/
def fallbackStem : Text := "automation-workflow"

theorem isSlug_fallbackStem : IsSlug fallbackStem :=
  .joined (w := "automation") (t := "workflow") (by decide) (by decide) (.group (by decide) (by decide))

theorem exists_stem (g : WorkflowGraph) : ∃ stem, g.exportFilename = stem ++ ".json" ∧ IsSlug stem ∧
    stem = if slug g.name = [] then fallbackStem else slug g.name := by
  have hslug := slug_eq_join g.name
  rw [exportFilename]
  cases hwords : slugWords (bareName g.name) with
  | nil =>
    rw [hwords] at hslug
    exact ⟨fallbackStem, rfl, isSlug_fallbackStem, (if_pos hslug).symm⟩
  | cons w words =>
    rw [hwords] at hslug
    have hstem : IsSlug (slug g.name) := by
      rw [hslug]
      exact isSlug_join (List.cons_ne_nil _ _) fun w hw => mem_slugWords (hwords ▸ hw)
    obtain ⟨c, rest, hne, -⟩ := hstem.exists_head
    have hsome : slug g.name ≠ [] := hne ▸ List.cons_ne_nil _ _
    exact ⟨slug g.name, by rw [hslug], hstem, (if_neg hsome).symm⟩

/-- **File names of exports are safe.** Whatever the name of a workflow is, its file name is made of one or more
groups of letters and digits with single hyphens between them, and `.json` behind them: what is left of the name
when hyphens stand in the place of all else, or a fixed text if nothing is left. A workflow that is named by that
stem is exported under the same file name. -/
theorem isSlug_exportFilename (g : WorkflowGraph) :
    ∃ stem, g.exportFilename = stem ++ ".json" ∧ IsSlug stem ∧
      (stem = if slug g.name = [] then fallbackStem else slug g.name) ∧
      ∀ h : WorkflowGraph, { h with name := stem }.exportFilename = g.exportFilename := by
  obtain ⟨stem, hname, hstem, heq⟩ := exists_stem g
  refine ⟨stem, hname, hstem, heq, fun h => ?_⟩
  have hsame := exportFilename_of_isSlug (g := { h with name := stem }) hstem
  rw [hsame, hname]

/-- The usual beginning is taken off once, and the sign for kelvin is a letter in lower case. -/
example : ({ name := "Automation: Automation: \u212AB/\"x\"..\n" } : WorkflowGraph).exportFilename =
    "automation-kb-x.json" := by
  decide +kernel

end Automation.WorkflowGraph
