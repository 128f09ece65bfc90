import Automation.Completion.Span

/-!
# How a scanner moves through a text

`Through s w u` says that a scanner that stands at `s` reads `w` without leaving all braces and
stands at `u` then. A text is level if a scanner that reads it inside of braces comes back to where
it was, without having left them. Runs of plain code points are level, and so are level texts one
after another and in braces. A level text in braces is a span (`objectSpans_braces`), whatever
stands behind it.
-/

namespace Automation.Completion

/-! ### Steps -/

namespace Scan

variable {c : CodePoint}

/-- A scanner between texts with at least one brace open. -/
def inside (d : Nat) : Scan := ⟨d + 1, .plain⟩

/-- A scanner between the quotes of a text with at least one brace open. -/
def inText (d : Nat) : Scan := ⟨d + 1, .quoted⟩

/-- A scanner right after a backslash of a text with at least one brace open. -/
def inEscape (d : Nat) : Scan := ⟨d + 1, .escaped⟩

/-- Whether a code point means nothing to a scanner between texts. -/
def IsPlain (c : CodePoint) : Prop :=
  c ≠ '"' ∧ c ≠ '\x7b' ∧ c ≠ '\x7d'

instance : Decidable (IsPlain c) :=
  inferInstanceAs (Decidable (_ ∧ _))

theorem next_plain (h : IsPlain c) (d : Nat) : (inside d).next c = inside d := by
  simp [next, inside, h.1, h.2.1, h.2.2]

theorem next_quote (d : Nat) : (inside d).next '"' = inText d := by
  simp [next, inside, inText]

theorem next_open (d : Nat) : (inside d).next '\x7b' = inside (d + 1) := by
  simp [next, inside]

theorem next_close (d : Nat) : (inside (d + 1)).next '\x7d' = inside d := by
  simp [next, inside]

theorem next_inText_quote (d : Nat) : (inText d).next '"' = inside d := by
  simp [next, inside, inText]

theorem next_inText_backslash (d : Nat) : (inText d).next '\\' = inEscape d := by
  simp [next, inText, inEscape]

theorem next_inText (hquote : c ≠ '"') (hslash : c ≠ '\\') (d : Nat) : (inText d).next c = inText d := by
  simp [next, inText, hquote, hslash]

theorem next_inEscape (d : Nat) : (inEscape d).next c = inText d := by
  simp [next, inText, inEscape]

theorem next_outside_open : outside.next '\x7b' = inside 0 := by
  simp [next, outside, inside]

theorem next_inside_zero_close : (inside 0).next '\x7d' = outside := by
  simp [next, outside, inside]

theorem next_outside (h : c ≠ '\x7b') : outside.next c = outside := by
  by_cases hquote : c = '"'
  · simp [next, outside, hquote]
  · by_cases hclose : c = '\x7d' <;> simp [next, outside, hquote, h, hclose]

end Scan

open Scan

/-! ### Runs -/

/-- A scanner reads a text with a brace open after each code point. -/
inductive Through : Scan → Text → Scan → Prop where
  /-- Nothing is read. -/
  | nil {s : Scan} : Through s [] s
  /-- One code point and the rest are read. -/
  | cons {s u : Scan} {c : CodePoint} {w : Text} :
    (s.next c).depth ≠ 0 → Through (s.next c) w u → Through s (c :: w) u

variable {s u v : Scan} {c : CodePoint} {w x current rest : Text}

theorem Through.append (h : Through s w u) (h' : Through u x v) : Through s (w ++ x) v := by
  induction h with
  | nil => exact h'
  | cons hdepth _ ih => exact .cons hdepth (ih h')

theorem Through.step (hnext : s.next c = u) (hdepth : u.depth ≠ 0) (h : Through u w v) : Through s (c :: w) v := by
  subst hnext
  exact .cons hdepth h

theorem Through.depth_ne (h : Through s w u) (hs : s.depth ≠ 0) : u.depth ≠ 0 := by
  induction h with
  | nil => exact hs
  | cons hdepth _ ih => exact ih hdepth

/-- Reading on in a text in quotes. -/
theorem Through.text {d : Nat} (hquote : c ≠ '"') (hslash : c ≠ '\\') (h : Through (inText d) w u) :
    Through (inText d) (c :: w) u :=
  .step (next_inText hquote hslash d) (Nat.succ_ne_zero d) h

/-- Reading an escape in a text in quotes. -/
theorem Through.escape {d : Nat} (c : CodePoint) (h : Through (inText d) w u) :
    Through (inText d) ('\\' :: c :: w) u :=
  .step (next_inText_backslash d) (Nat.succ_ne_zero d) (.step (next_inEscape d) (Nat.succ_ne_zero d) h)

/-- What a scanner has read inside of braces is part of the span that is open. -/
theorem spansFrom_of_through (h : Through s w u) :
    spansFrom s current (w ++ rest) = spansFrom u (w.reverse ++ current) rest := by
  induction h generalizing current with
  | nil => rfl
  | cons hdepth _ ih =>
    rw [List.cons_append, spansFrom, if_pos hdepth, ih]
    simp

/-! ### Level texts -/

/-- A text that brings a scanner inside of braces back to where it was. -/
def Level (w : Text) : Prop :=
  ∀ d, Through (inside d) w (inside d)

theorem level_nil : Level [] :=
  fun _ => .nil

theorem Level.append (h : Level w) (h' : Level x) : Level (w ++ x) :=
  fun d => (h d).append (h' d)

theorem Level.cons (hc : IsPlain c) (h : Level w) : Level (c :: w) :=
  fun d => .step (next_plain hc d) (Nat.succ_ne_zero d) (h d)

theorem level_of_plain (h : ∀ c ∈ w, IsPlain c) : Level w := by
  induction w with
  | nil => exact level_nil
  | cons c w ih =>
    rw [List.forall_mem_cons] at h
    exact .cons h.1 (ih h.2)

/-- A text in quotes is level. -/
theorem level_quoted (h : ∀ d, Through (inText d) w (inside d)) : Level ('"' :: w) :=
  fun d => .step (next_quote d) (Nat.succ_ne_zero d) (h d)

/-- A level text in braces is level. -/
theorem Level.braces (h : Level w) : Level (.ofChar '\x7b' :: w ++ [.ofChar '\x7d']) := fun d =>
  .step (next_open d) (Nat.succ_ne_zero _)
    ((h (d + 1)).append (.step (next_close d) (Nat.succ_ne_zero d) .nil))

/-! ### Spans -/

/-- Outside of spans everything but an opening brace is passed over. -/
theorem objectSpans_append_of_not_mem (rest : Text) (h : CodePoint.ofChar '\x7b' ∉ w) :
    objectSpans (w ++ rest) = objectSpans rest := by
  induction w with
  | nil => rfl
  | cons c w ih =>
    rw [List.mem_cons, not_or] at h
    rw [List.cons_append, objectSpans, spansFrom, next_outside (Ne.symm h.1)]
    exact ih h.2

/-- A text without an opening brace has no spans. -/
theorem objectSpans_of_not_mem (h : CodePoint.ofChar '\x7b' ∉ w) : objectSpans w = [] := by
  have hspans := objectSpans_append_of_not_mem [] h
  rwa [List.append_nil] at hspans

/-- A piece of a text is a span if it goes from an opening brace up to where a scanner has left it. -/
theorem objectSpans_of_through (h : Through (inside 0) w u) (hend : u.next c = outside) (rest : Text) :
    objectSpans (.ofChar '\x7b' :: (w ++ c :: rest)) = (.ofChar '\x7b' :: (w ++ [c])) :: objectSpans rest := by
  have hdepth : u.depth ≠ 0 := h.depth_ne (Nat.succ_ne_zero 0)
  rw [objectSpans, spansFrom, next_outside_open]
  show spansFrom (inside 0) [.ofChar '\x7b'] (w ++ c :: rest) = _
  rw [spansFrom_of_through h, spansFrom, hend, if_neg (by decide), if_pos hdepth]
  simp [objectSpans]

/-- A level text in braces is a span. -/
theorem objectSpans_braces (h : Level w) :
    objectSpans (.ofChar '\x7b' :: (w ++ .ofChar '\x7d' :: rest)) =
      (.ofChar '\x7b' :: w ++ [.ofChar '\x7d']) :: objectSpans rest :=
  objectSpans_of_through (h 0) next_inside_zero_close rest

end Automation.Completion
