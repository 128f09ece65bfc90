import Automation.Proofs.Completion.Embedding

/-!
# The spans of a text

Which pieces of a text are its spans can be told without a scanner, by counting braces. `braceDepth` is how many
more braces are opened than closed outside of quotes. A span is a piece from an opening brace up to where this
number is zero for the first time (`IsSpan`); a text is divided into its spans, gaps without an opening brace
between them, and a rest in which a brace is never closed, if there is one at all (`Divides`).

A scanner that is inside of braces counts right: its depth moves by what is opened and closed outside of quotes,
and it knows whether it stands between quotes (`depth_next`, `depthFrom_cons`). Outside of braces it does not
look at quotes, but there it need not count.

Main statement: `divided_objectSpans`.
-/

namespace Automation.Completion

open Scan

variable {s u : Scan} {c : CodePoint} {t w front gap : Text} {spans : List Text}

/-! ### Counting braces -/

/-- What stands outside of quotes in a text that begins at a place of some kind. -/
def unquoted : ScanMode → Text → Text
  | _, [] => []
  | .plain, c :: rest => if c = '"' then unquoted .quoted rest else c :: unquoted .plain rest
  | .quoted, c :: rest =>
    if c = '\\' then unquoted .escaped rest
    else if c = '"' then unquoted .plain rest
    else unquoted .quoted rest
  | .escaped, _ :: rest => unquoted .quoted rest

/-- How many more braces are opened than closed outside of quotes, in a text that begins at a place of some kind. -/
def depthFrom (mode : ScanMode) (t : Text) : Int :=
  (unquoted mode t).count (.ofChar '\x7b') - (unquoted mode t).count (.ofChar '\x7d')

/-- How many more braces are opened than closed outside of quotes. -/
def braceDepth (t : Text) : Int :=
  depthFrom .plain t

@[simp] theorem depthFrom_nil (mode : ScanMode) : depthFrom mode [] = 0 := by
  cases mode <;> rfl

theorem depthFrom_plain_cons (hquote : c ≠ '"') (w : Text) :
    depthFrom .plain (c :: w) = depthFrom .plain [c] + depthFrom .plain w := by
  simp only [depthFrom, unquoted, if_neg hquote, List.count_cons, List.count_nil]
  omega

/-- Inside of braces a scanner counts what a code point opens or closes. -/
theorem depth_next (h : s.depth ≠ 0) (c : CodePoint) : ((s.next c).depth : Int) = s.depth + depthFrom s.mode [c] := by
  obtain ⟨depth, mode⟩ := s
  cases mode with
  | escaped => simp [next, depthFrom, unquoted]
  | quoted =>
    simp only [next, depthFrom, unquoted]
    split
    · simp
    · split <;> simp
  | plain =>
    have hzero : depth ≠ 0 := h
    by_cases hquote : c = '"'
    · simp [next, depthFrom, unquoted, hquote, hzero]
    · by_cases hopen : c = '\x7b'
      · simp [next, depthFrom, unquoted, hopen]
      · by_cases hclose : c = '\x7d'
        · simp [next, depthFrom, unquoted, hclose]
          omega
        · simp [next, depthFrom, unquoted, hquote, hopen, hclose]

/-- Inside of braces a scanner knows at what kind of place it stands. -/
theorem depthFrom_cons (h : s.depth ≠ 0) (c : CodePoint) (w : Text) :
    depthFrom s.mode (c :: w) = depthFrom s.mode [c] + depthFrom (s.next c).mode w := by
  obtain ⟨depth, mode⟩ := s
  cases mode with
  | escaped => simp [next, depthFrom, unquoted]
  | quoted =>
    simp only [next, depthFrom, unquoted]
    split
    · simp
    · split <;> simp
  | plain =>
    have hzero : depth ≠ 0 := h
    by_cases hquote : c = '"'
    · simp [next, depthFrom, unquoted, hquote, hzero]
    · rw [depthFrom_plain_cons hquote]
      have hmode : (next ⟨depth, .plain⟩ c).mode = .plain := by
        simp only [next, if_neg hquote]
        split
        · rfl
        · split <;> rfl
      rw [hmode]

/-- What a scanner has counted inside of braces and what is still to be counted. -/
theorem Through.depth_append (h : Through s w u) (hs : s.depth ≠ 0) (x : Text) :
    s.depth + depthFrom s.mode (w ++ x) = u.depth + depthFrom u.mode x := by
  induction h with
  | nil => rfl
  | @cons s u c w hdepth _ ih =>
    rw [List.cons_append, depthFrom_cons hs, ← ih hdepth, depth_next hs]
    omega

theorem Through.of_prefix (h : Through s w u) (hfront : front <+: w) : ∃ v, Through s front v := by
  induction h generalizing front with
  | nil =>
    obtain rfl := List.prefix_nil.1 hfront
    exact ⟨_, .nil⟩
  | cons hdepth _ ih =>
    rcases List.prefix_cons_iff.1 hfront with rfl | ⟨front, rfl, hrest⟩
    · exact ⟨_, .nil⟩
    · obtain ⟨v, hv⟩ := ih hrest
      exact ⟨v, .cons hdepth hv⟩

/-- A scanner reads a text inside of braces as long as more of them are opened than closed. -/
theorem exists_through_iff (hs : s.depth ≠ 0) :
    (∃ u, Through s w u) ↔ ∀ front, front <+: w → 0 < s.depth + depthFrom s.mode front := by
  constructor
  · rintro ⟨u, h⟩ front hfront
    obtain ⟨v, hv⟩ := h.of_prefix hfront
    have hcount := hv.depth_append hs []
    have hdepth := hv.depth_ne hs
    rw [List.append_nil, depthFrom_nil] at hcount
    omega
  · intro h
    induction w generalizing s with
    | nil => exact ⟨s, .nil⟩
    | cons c w ih =>
      have hdepth : (s.next c).depth ≠ 0 := by
        have hfirst := h [c] (List.prefix_append [c] w)
        rw [← depth_next hs] at hfirst
        omega
      obtain ⟨u, hu⟩ := ih hdepth fun front hfront => by
        have hmore := h (c :: front) (List.prefix_cons_inj c |>.2 hfront)
        rw [depthFrom_cons hs, ← Int.add_assoc, ← depth_next hs] at hmore
        exact hmore
      exact ⟨u, .cons hdepth hu⟩

/-! ### Spans and rests -/

/-- A brace is open in a text from its beginning on, and it is not closed. -/
def Unclosed (t : Text) : Prop :=
  ∀ front, front <+: t → front ≠ [] → 0 < braceDepth front

/-- A text goes from an opening brace up to the brace that closes it. -/
structure IsSpan (t : Text) : Prop where
  /-- It begins with an opening brace. -/
  opens : t.head? = some (.ofChar '\x7b')
  /-- It ends with a closing brace. -/
  closes : t.getLast? = some (.ofChar '\x7d')
  /-- Before its end a brace is open. -/
  inside : ∀ front, front <+: t → front ≠ [] → front ≠ t → 0 < braceDepth front
  /-- At its end none is. -/
  settled : braceDepth t = 0

theorem braceDepth_open (w : Text) :
    braceDepth (.ofChar '\x7b' :: w) = (Scan.inside 0).depth + depthFrom (Scan.inside 0).mode w := by
  have hquote : CodePoint.ofChar '\x7b' ≠ '"' := by decide
  rw [braceDepth, depthFrom_plain_cons hquote]
  rfl

theorem unclosed_of_through (h : Through (Scan.inside 0) w u) : Unclosed (.ofChar '\x7b' :: w) := by
  intro front hfront hne
  obtain ⟨front, rfl, hrest⟩ := (List.prefix_cons_iff.1 hfront).resolve_left hne
  rw [braceDepth_open]
  exact (exists_through_iff (by decide)).1 ⟨u, h⟩ front hrest

theorem eq_open_of_braceDepth_pos (h : 0 < braceDepth [c]) : c = '\x7b' := by
  by_contra hopen
  rw [braceDepth, depthFrom, unquoted] at h
  split at h
  · simp [unquoted] at h
  · simp [unquoted, hopen] at h
    omega

/-- Where a brace is never closed a scanner stays inside of it. -/
theorem Unclosed.exists_through (h : Unclosed t) (hne : t ≠ []) :
    ∃ w u, t = .ofChar '\x7b' :: w ∧ Through (Scan.inside 0) w u := by
  obtain ⟨c, w, rfl⟩ := List.exists_cons_of_ne_nil hne
  obtain rfl := eq_open_of_braceDepth_pos (h [c] (List.prefix_append [c] w) (List.cons_ne_nil _ _))
  obtain ⟨u, hu⟩ := (exists_through_iff (s := Scan.inside 0) (w := w) (by decide)).2 fun front hfront => by
    rw [← braceDepth_open]
    exact h _ ((List.prefix_cons_inj _).2 hfront) (List.cons_ne_nil _ _)
  exact ⟨w, u, rfl, hu⟩

/-- A scanner leaves the last brace by closing it. -/
theorem next_eq_outside (hs : s.depth ≠ 0) (h : (s.next c).depth = 0) : c = '\x7d' ∧ s.next c = outside := by
  obtain ⟨depth, mode⟩ := s
  have hzero : depth ≠ 0 := hs
  cases mode with
  | escaped => exact absurd h hzero
  | quoted =>
    simp only [next] at h
    split at h
    · exact absurd h hzero
    · split at h <;> exact absurd h hzero
  | plain =>
    simp only [next, if_neg hzero] at h ⊢
    split at h
    · exact absurd h hzero
    · next hquote =>
      split at h
      · exact absurd h (Nat.succ_ne_zero _)
      · next hopen =>
        split at h
        · next hclose =>
          subst hclose
          refine ⟨rfl, ?_⟩
          rw [if_neg hquote, if_neg hopen, if_pos rfl]
          exact congrArg (Scan.mk · .plain) h
        · exact absurd h hzero

theorem isSpan_of_through (h : Through (Scan.inside 0) w u) (hend : (u.next c).depth = 0) :
    IsSpan (.ofChar '\x7b' :: (w ++ [c])) where
  opens := rfl
  closes := by
    rw [(next_eq_outside (h.depth_ne (by decide)) hend).1, ← List.cons_append, List.getLast?_append]
    rfl
  inside front hfront hne hproper := by
    obtain ⟨front, rfl, hrest⟩ := (List.prefix_cons_iff.1 hfront).resolve_left hne
    refine unclosed_of_through h _ ((List.prefix_cons_inj _).2 ?_) hne
    exact (List.prefix_concat_iff.1 hrest).resolve_left fun heq => hproper (heq ▸ rfl)
  settled := by
    rw [braceDepth_open, h.depth_append (by decide), ← depth_next (h.depth_ne (by decide)), hend]
    rfl

/-- A scanner reads a span to its end, and is outside of all braces then. -/
theorem IsSpan.exists_through (h : IsSpan t) :
    ∃ w u, t = .ofChar '\x7b' :: (w ++ [.ofChar '\x7d']) ∧ Through (Scan.inside 0) w u ∧ u.next '\x7d' = outside := by
  obtain ⟨front, rfl⟩ := List.getLast?_eq_some_iff.1 h.closes
  cases front with
  | nil => exact absurd h.opens (by decide)
  | cons c w =>
    obtain rfl : c = '\x7b' := Option.some.inj h.opens
    obtain ⟨u, hu⟩ := (exists_through_iff (s := Scan.inside 0) (w := w) (by decide)).2 fun front hfront => by
      rw [← braceDepth_open]
      refine h.inside _ ?_ (List.cons_ne_nil _ _) ?_
      · exact (List.prefix_cons_inj _).2 (hfront.trans (List.prefix_append _ _))
      · intro heq
        have hlength := congrArg List.length heq
        have hle := hfront.length_le
        simp at hlength
        omega
    have hdepth := hu.depth_ne (by decide)
    have hend := h.settled
    rw [List.cons_append, braceDepth_open, hu.depth_append (by decide), ← depth_next hdepth] at hend
    exact ⟨w, u, rfl, hu, (next_eq_outside hdepth (by omega)).2⟩

/-- How a text is divided into spans, which stand one after another, with gaps between them. -/
inductive Divides : Text → List Text → Prop where
  /-- Behind the last span a brace may be opened, but then it is never closed. -/
  | rest {gap rest : Text} : CodePoint.ofChar '\x7b' ∉ gap → Unclosed rest → Divides (gap ++ rest) []
  /-- In front of a span no brace is opened. -/
  | span {gap span rest : Text} {spans : List Text} :
    CodePoint.ofChar '\x7b' ∉ gap → IsSpan span → Divides rest spans → Divides (gap ++ (span ++ rest)) (span :: spans)

/-! ### The spans that a scanner finds -/

/-- What a scanner from outside has read with braces open begins with one of them. -/
theorem through_outside (h : Through outside front s) :
    front = [] ∧ s = outside ∨ ∃ w, front = .ofChar '\x7b' :: w ∧ Through (Scan.inside 0) w s := by
  cases h with
  | nil => exact .inl ⟨rfl, rfl⟩
  | @cons _ _ c w hdepth hrest =>
    by_cases hopen : c = '\x7b'
    · subst hopen
      exact .inr ⟨w, rfl, hrest⟩
    · rw [next_outside hopen] at hdepth
      exact absurd rfl hdepth

/-- A scanner that has read a gap and the beginning of a span divides what follows, too. -/
theorem divides_spansFrom (hgap : CodePoint.ofChar '\x7b' ∉ gap) (h : Through outside front s) (t : Text) :
    Divides (gap ++ (front ++ t)) (spansFrom s front.reverse t) := by
  induction t generalizing gap front s with
  | nil =>
    rw [List.append_nil, spansFrom]
    rcases through_outside h with ⟨rfl, -⟩ | ⟨w, rfl, hw⟩
    · exact .rest hgap fun front hfront hne => absurd (List.prefix_nil.1 hfront) hne
    · exact .rest hgap (unclosed_of_through hw)
  | cons c t ih =>
    rw [spansFrom]
    by_cases hnext : (s.next c).depth ≠ 0
    · -- the span goes on
      have hmore := ih hgap (h.append (.cons hnext .nil))
      rw [if_pos hnext]
      simpa using hmore
    · rw [if_neg hnext]
      rw [not_not] at hnext
      rcases through_outside h with ⟨rfl, rfl⟩ | ⟨w, rfl, hw⟩
      · -- the gap goes on
        have hopen : c ≠ '\x7b' := by
          rintro rfl
          exact absurd hnext (by decide)
        have hlonger : CodePoint.ofChar '\x7b' ∉ gap ++ [c] := by
          simpa [hgap] using Ne.symm hopen
        have hmore := ih hlonger (.nil (s := outside))
        rw [if_neg (by decide), next_outside hopen]
        simpa using hmore
      · -- the span ends
        have hdepth : s.depth ≠ 0 := hw.depth_ne (by decide)
        have hmore := ih (List.not_mem_nil (a := CodePoint.ofChar '\x7b')) (.nil (s := outside))
        rw [if_pos hdepth, (next_eq_outside hdepth hnext).2]
        have hspan := Divides.span hgap (isSpan_of_through hw hnext) hmore
        simpa using hspan

/-- Gaps and spans tell what a scanner finds. -/
theorem Divides.eq_objectSpans (h : Divides t spans) : spans = objectSpans t := by
  induction h with
  | @rest gap rest hgap hrest =>
    rw [objectSpans_append_of_not_mem rest hgap]
    by_cases hne : rest = []
    · rw [hne]
      rfl
    · obtain ⟨w, u, rfl, hw⟩ := hrest.exists_through hne
      have hthrough : Through outside (.ofChar '\x7b' :: w) u := .step next_outside_open (by decide) hw
      have hread : objectSpans (.ofChar '\x7b' :: w ++ []) = [] := spansFrom_of_through hthrough
      rw [List.append_nil] at hread
      exact hread.symm
  | @span gap span rest spans hgap hspan _ ih =>
    obtain ⟨w, u, rfl, hw, hend⟩ := hspan.exists_through
    have hread := objectSpans_of_through hw hend rest
    rw [objectSpans_append_of_not_mem _ hgap, ih, ← hread]
    simp

theorem divides_iff : Divides t spans ↔ spans = objectSpans t := by
  refine ⟨Divides.eq_objectSpans, ?_⟩
  rintro rfl
  exact divides_spansFrom List.not_mem_nil .nil t

theorem Divides.isSpan (h : Divides t spans) : ∀ span ∈ spans, IsSpan span := by
  induction h with
  | rest => exact nofun
  | span _ hspan _ ih => exact List.forall_mem_cons.2 ⟨hspan, ih⟩

/-- A span has no span but itself. -/
theorem objectSpans_of_isSpan (h : IsSpan t) : objectSpans t = [t] := by
  obtain ⟨w, u, rfl, hw, hend⟩ := h.exists_through
  exact objectSpans_of_through hw hend []

/-- What is known of the spans of a text. -/
structure Divided (t : Text) (spans : List Text) : Prop where
  /-- The text is divided into these spans and into no others. -/
  divides : ∀ others, Divides t others ↔ others = spans
  /-- A brace is open in each of them from its beginning up to its end, and by itself it is its only span. -/
  each : ∀ span ∈ spans, IsSpan span ∧ objectSpans span = [span]
  /-- Where a scanner has no brace open the text can be cut. -/
  cut : ∀ front rest, t = front ++ rest → (outside.after front).depth = 0 → spans = objectSpans front ++ objectSpans rest

/-- **A text is divided by its spans.** -/
theorem divided_objectSpans (t : Text) : Divided t (objectSpans t) where
  divides _ := divides_iff
  each span hspan := by
    have hself : IsSpan span := (divides_iff.2 rfl).isSpan span hspan
    exact ⟨hself, objectSpans_of_isSpan hself⟩
  cut front rest h hdepth := by rw [h, objectSpans_append rest hdepth]

-- a quote outside of braces, a closing brace between quotes, one that closes nothing, and a brace that is never closed
example : objectSpans "a\" \x7b\"\\\"\x7d\"\x7d \x7d \x7b" = [("\x7b\"\\\"\x7d\"\x7d" : Text)] := by decide +kernel

end Automation.Completion
