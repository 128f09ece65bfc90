import Automation.Chars.CaseTable

/-!
# Lower case

`Text.lower` writes a text in lower case. Two letters do not go to one fixed letter: the capital I
with a dot becomes an i and a combining dot, and a capital sigma takes its final form at the end of
a word, that is after a cased letter and not before one, where marks and modifiers are looked
through.

`sameLetter` compares two code points without regard to case, one at a time.
-/

namespace Automation.Chars

/-- The lower-case letter of a point in a list of runs; a point in no run stays. -/
def lowerIn : List CaseRun → Nat → Nat
  | [], point => point
  | run :: rest, point =>
    if point < run.first then point
    else if point ≤ run.last ∧ (point - run.first) % run.stride = 0 then
      run.lower + (point - run.first)
    else lowerIn rest point

/-- The lower-case form of a code point, as one code point: the capital I with a dot goes to i. -/
def lowerPoint (c : CodePoint) : CodePoint :=
  if c = 'İ' then 'i' else .ofNat (lowerIn caseRuns c.value)

/-- Whether a code point is a letter that has a case. -/
def isCased (c : CodePoint) : Bool :=
  casedPoints.contains c

/-- Whether a sigma looks through a code point. -/
def isLookedThrough (c : CodePoint) : Bool :=
  lookThroughPoints.contains c

/-- Whether the first code point that is not looked through has a case. -/
def startsCased : Text → Bool
  | [] => false
  | c :: rest => if isLookedThrough c then startsCased rest else isCased c

/-- The lower-case form of a code point between a text and the rest of its text. `afterCased` says
whether the last code point before it that is not looked through has a case. -/
def lowerAt (afterCased : Bool) (c : CodePoint) (rest : Text) : Text :=
  if c = 'Σ' then
    if afterCased && !startsCased rest then ['ς'] else ['σ']
  else if c = 'İ' then ['i', '\u0307']
  else [lowerPoint c]

/-- The lower-case form of the rest of a text. -/
def lowerFrom : Bool → Text → Text
  | _, [] => []
  | afterCased, c :: rest =>
    lowerAt afterCased c rest
      ++ lowerFrom (if isLookedThrough c then afterCased else isCased c) rest

theorem startsCased_append {c : CodePoint} (hcased : isCased c = false) (hlook : isLookedThrough c = false)
    (t rest : Text) : startsCased (t ++ c :: rest) = startsCased t := by
  induction t with
  | nil => simp [startsCased, hcased, hlook]
  | cons d t ih => simp [startsCased, ih]

/-- A code point that has no case and is not looked through keeps apart what is before it and what is
behind it. -/
theorem lowerFrom_append {c : CodePoint} (hcased : isCased c = false) (hlook : isLookedThrough c = false)
    (afterCased : Bool) (t rest : Text) :
    lowerFrom afterCased (t ++ c :: rest) = lowerFrom afterCased t ++ lowerPoint c :: lowerFrom false rest := by
  induction t generalizing afterCased with
  | nil =>
    have hsigma : c ≠ 'Σ' := by
      rintro rfl
      exact absurd hcased (by decide +kernel)
    have hdotted : c ≠ 'İ' := by
      rintro rfl
      exact absurd hcased (by decide +kernel)
    simp [lowerFrom, lowerAt, hsigma, hdotted, hlook, hcased]
  | cons d t ih =>
    simp [lowerFrom, lowerAt, ih, startsCased_append hcased hlook]

/-- Among the first code points only the letters from A to Z have another lower-case form. -/
theorem lowerIn_caseRuns {n : Nat} (h : n < 0x41 ∨ 0x5a < n ∧ n < 0xc0) : lowerIn caseRuns n = n := by
  rw [caseRuns, lowerIn]
  rcases h with h | ⟨hlow, hhigh⟩
  · rw [if_pos h]
  · have hfirst : ¬n < 0x41 := by omega
    have hlast : ¬(n ≤ 0x5a ∧ (n - 0x41) % 1 = 0) := by omega
    rw [if_neg hfirst, if_neg hlast, lowerIn, if_pos hhigh]

theorem lowerAt_eq_self {c : CodePoint} (h : c.value < 0x41 ∨ 0x5a < c.value ∧ c.value < 0xc0) (afterCased : Bool)
    (rest : Text) : lowerAt afterCased c rest = [c] := by
  have hsigma : c ≠ 'Σ' := by
    rintro rfl
    exact absurd h (by decide)
  have hdotted : c ≠ 'İ' := by
    rintro rfl
    exact absurd h (by decide)
  rw [lowerAt, if_neg hsigma, if_neg hdotted, lowerPoint, if_neg hdotted, lowerIn_caseRuns h, CodePoint.ofNat_value]

/-- Whether two code points are the same letter when case is ignored. -/
def sameLetter (a b : CodePoint) : Bool :=
  let a := lowerPoint a
  let b := lowerPoint b
  a == b || caseClasses.any fun letters => letters.contains a.value && letters.contains b.value

end Automation.Chars

namespace Automation.Text

/-- A text in lower case. -/
def lower (t : Text) : Text :=
  Chars.lowerFrom false t

/-- A text of the first code points without the letters from A to Z is in lower case. -/
theorem lower_eq_self {t : Text} (h : ∀ c ∈ t, c.value < 0x41 ∨ 0x5a < c.value ∧ c.value < 0xc0) : t.lower = t := by
  have hfrom : ∀ afterCased, Chars.lowerFrom afterCased t = t := by
    induction t with
    | nil => exact fun _ => rfl
    | cons c t ih =>
      intro afterCased
      have hrest := ih fun d hd => h d (List.mem_cons_of_mem _ hd)
      rw [Chars.lowerFrom, Chars.lowerAt_eq_self (h c List.mem_cons_self), hrest, List.singleton_append]
  exact hfrom false

/-- Words do not run together across a blank. -/
theorem lower_append_blank (t rest : Text) : lower (t ++ (" " ++ rest)) = lower t ++ (" " ++ lower rest) := by
  have hblank : Chars.lowerPoint ' ' = ' ' := by decide +kernel
  change Chars.lowerFrom false (t ++ CodePoint.ofChar ' ' :: rest) = _
  rw [Chars.lowerFrom_append (by decide +kernel) (by decide +kernel), hblank]
  rfl

end Automation.Text
