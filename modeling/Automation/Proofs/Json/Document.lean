import Automation.Proofs.Json.Trailing

/-!
# Documents as texts

An object that a text is read as stands in it from brace to brace, with nothing but space around, and
what stands there is read as the same object (`read_object`). What is read as a number is read so as a
value (`readLeaf_of_readNumber`). A text of digits alone is an integer; with too many of them it is
beyond a limit (`read_digits`).
-/

namespace Automation.Json

open Completion

variable {c : CodePoint} {t rest : Text} {v : Json} {members : Members}

/-- A text that is no document because it does not follow the grammar. -/
def Malformed [Limits] (t : Text) : Prop :=
  ∃ flaw left, read t = .error (.malformed flaw left)

theorem not_malformed_of_ok [Limits] (h : read t = .ok v) : ¬Malformed t := by
  rintro ⟨flaw, left, hflaw⟩
  cases hflaw.symm.trans h

/-- Documents with some levels are read everywhere. -/
theorem exists_nesting_eq [Limits] : ∃ depth, Limits.nesting = depth + 1 :=
  Nat.exists_eq_succ_of_ne_zero (Nat.ne_of_gt (Nat.lt_of_lt_of_le (by decide) Limits.four_le_nesting))

theorem malformed_nil [Limits] : Malformed [] := by
  obtain ⟨depth, hdepth⟩ := exists_nesting_eq
  exact ⟨.noValue, 0, by rw [read, hdepth]; rfl⟩

/-! ### Values and space around them -/

theorem readWithin_ok {depth : Nat} : readWithin depth t = .ok v ↔
    t.head? ≠ some (.ofChar '\ufeff') ∧
      ∃ rest, readValue depth (skipSpace t) = .ok (v, rest) ∧ skipSpace rest = [] := by
  by_cases hmark : t.head? = some (.ofChar '\ufeff')
  · rw [readWithin, if_pos (by exact hmark)]
    simp [hmark, flawAt_ne_ok]
  rw [readWithin, if_neg (by exact hmark), bind_eq_ok]
  simp only [Prod.exists, ne_eq, not_false_eq_true, true_and, hmark]
  constructor
  · rintro ⟨value, rest, hvalue, h⟩
    cases hrest : skipSpace rest with
    | nil =>
      rw [hrest] at h
      obtain rfl := Except.ok.inj h
      exact ⟨rest, hvalue, hrest⟩
    | cons c rest =>
      rw [hrest] at h
      exact absurd h flawAt_ne_ok
  · rintro ⟨rest, hvalue, hrest⟩
    exact ⟨v, rest, hvalue, by rw [hrest]⟩

theorem mem_words_ne_object : ∀ p ∈ words, p.2 ≠ object members := by
  simp [words, float]

/-- A value that is read as an object begins as one. -/
theorem readValue_object {depth : Nat} (h : readValue (depth + 1) t = .ok (object members, rest)) :
    ∃ t₁, t = (.ofChar '\x7b' : CodePoint) :: t₁ ∧
      readObject (readValue depth) t₁ = .ok (object members, rest) := by
  rcases readValue_succ_ok.1 h with ⟨t₁, rfl, harray⟩ | hobject | ⟨-, hleaf⟩
  · rcases readArray_ok.1 harray with ⟨-, hv⟩ | ⟨c, t₂, items, -, -, -, hv⟩ <;> cases hv
  · exact hobject
  rcases readLeaf_ok.1 hleaf with hword | ⟨-, ⟨_, _, -, -, hv⟩ | ⟨-, _, -, hv⟩⟩
  · obtain ⟨w, hw, -⟩ := mem_words_of_readWord hword
    exact absurd rfl (mem_words_ne_object _ hw)
  · cases hv
  · cases hv

/-- An object that is read stands in braces, with space around and a level text between. -/
theorem read_object [Limits] (h : read t = .ok (object members)) :
    ∃ before w after, (∀ c ∈ before, isSpace c) ∧ (∀ c ∈ after, isSpace c) ∧
      t = before ++ .ofChar '\x7b' :: (w ++ .ofChar '\x7d' :: after) ∧ Level w ∧
      read (.ofChar '\x7b' :: w ++ [.ofChar '\x7d']) = .ok (object members) := by
  obtain ⟨-, after, hvalue, hspace⟩ := readWithin_ok.1 h
  obtain ⟨depth, hdepth⟩ := exists_nesting_eq
  obtain ⟨t₁, ht, hobject⟩ := readValue_object (hdepth ▸ hvalue)
  obtain ⟨w, hw, rfl⟩ := leaves_readObject (takesLevel_readValue depth) hobject
  have hafter : ∀ c ∈ after, isSpace c := List.dropWhile_eq_nil_iff.1 hspace
  refine ⟨t.takeWhile isSpace, w, after, fun c => List.mem_takeWhile_imp, hafter, ?_, hw, ?_⟩
  · rw [← ht]
    exact List.takeWhile_append_dropWhile.symm
  -- The space behind the closing brace is all that is cut off.
  have hsplit : skipSpace t = (.ofChar '\x7b' :: w ++ [.ofChar '\x7d']) ++ after := by
    rw [ht]
    simp
  rw [hsplit] at hvalue
  obtain ⟨y, hy, hvalue⟩ := ignoresTrailing_readValue hafter Limits.nesting hvalue
  obtain rfl : y = [] := List.append_left_eq_self.1 hy.symm
  exact readWithin_ok.2 ⟨by simp, [], hvalue, rfl⟩

/-! ### Numbers as values -/

/-- A digit begins no word. -/
theorem readWord_of_isDigit (hc : c.isDigit) : readWord (c :: t) = none := by
  have hwords : ∀ p ∈ words, ∃ d w, p.1 = d :: w ∧ d.isDigit = false := by
    simp only [words, List.forall_mem_cons]
    exact ⟨⟨_, _, rfl, rfl⟩, ⟨_, _, rfl, rfl⟩, ⟨_, _, rfl, rfl⟩, ⟨_, _, rfl, rfl⟩, ⟨_, _, rfl, rfl⟩,
      ⟨_, _, rfl, rfl⟩, nofun⟩
  rw [readWord, List.findSome?_eq_none_iff]
  intro p hp
  obtain ⟨d, w, hw, hd⟩ := hwords p hp
  have hne : d ≠ c := by
    rintro rfl
    cases hd.symm.trans hc
  simp [hw, hne]

/-- A word with a minus sign goes on with a letter. -/
theorem readWord_minus (hc : c.isDigit) : readWord (.ofChar '-' :: c :: t) = none := by
  have hne : CodePoint.ofChar 'I' ≠ c := by
    rintro rfl
    exact absurd hc (by decide)
  simp [readWord, words, Text.ofString, hne]

/-- A number begins with a digit, or with a minus sign and a digit. -/
theorem exists_digit_of_readNumber {n : Number} (h : readNumber t = .ok (n, rest)) :
    ∃ c t₁, c.isDigit ∧ (t = c :: t₁ ∨ t = .ofChar '-' :: c :: t₁) := by
  obtain ⟨c, w, hw⟩ := List.exists_cons_of_ne_nil (readNumber_ok.1 h).1
  have hc : c.isDigit := isDigit_of_mem_wholePart (hw ▸ List.mem_cons_self)
  obtain ⟨t₁, ht₁⟩ := (List.prefix_append [c] w).trans (hw ▸ prefix_wholePart (behindSign t))
  refine ⟨c, t₁, hc, ?_⟩
  unfold behindSign at ht₁
  split at ht₁
  · rename_i hsign
    obtain ⟨t₂, rfl⟩ := List.head?_eq_some_iff.1 (beq_iff_eq.1 hsign)
    exact .inr (congrArg _ ht₁.symm)
  · exact .inl ht₁.symm

theorem not_opensLevel_of_readNumber {n : Number} (h : readNumber t = .ok (n, rest)) : ¬OpensLevel t := by
  obtain ⟨c, t₁, hc, rfl | rfl⟩ := exists_digit_of_readNumber h
  · rintro (hopen | hopen)
    all_goals
      obtain rfl := Option.some.inj hopen
      exact absurd hc (by decide)
  · simp [OpensLevel]

/-- What is read as a number is neither a word nor a text. -/
theorem readLeaf_of_readNumber {n : Number} (h : readNumber t = .ok (n, rest)) :
    readLeaf t = .ok (number n, rest) := by
  obtain ⟨c, t₁, hc, rfl | rfl⟩ := exists_digit_of_readNumber h
  · have hquote : c ≠ '"' := by
      rintro rfl
      exact absurd hc (by decide)
    exact readLeaf_ok.2 (.inr ⟨readWord_of_isDigit hc, .inr ⟨⟨c, t₁, rfl, hquote⟩, n, h, rfl⟩⟩)
  · exact readLeaf_ok.2 (.inr ⟨readWord_minus hc, .inr ⟨⟨_, _, rfl, by decide⟩, n, h, rfl⟩⟩)

/-! ### Integers beyond the limit -/

/-- Digits alone, too many of them, are a document beyond the limit. -/
theorem read_digits [Limits] (hdigits : ∀ d ∈ c :: t, d.isDigit) (hzero : c ≠ '0')
    (hlimit : Numeral.digitLimit < (c :: t).length) :
    read (c :: t) = .error (.beyond (.digits (c :: t).length)) := by
  have hc : c.isDigit := hdigits c List.mem_cons_self
  have hne : ∀ d : CodePoint, d.isDigit = false → c ≠ d := by
    rintro d hd rfl
    cases hd.symm.trans hc
  have hspace : skipSpace (c :: t) = c :: t := by
    have : isSpace c = false := by
      by_contra h
      rw [not_isDigit_of_isSpace (Bool.not_eq_false _ ▸ h)] at hc
      cases hc
    simp [skipSpace, this]
  have hleaf : readLeaf (c :: t) = .error (.beyond (.digits (c :: t).length)) := by
    rw [readLeaf, readWord_of_isDigit hc]
    simp only [hne '"' rfl, if_false, readNumber_digits hdigits hzero hlimit]
    rfl
  have hvalue : readValue Limits.nesting (c :: t) = readLeaf (c :: t) := by
    obtain ⟨depth, hdepth⟩ := exists_nesting_eq
    rw [hdepth, readValue]
    simp only [hne '[' rfl, hne '\x7b' rfl, if_false]
  rw [read, readWithin, if_neg (by simpa using hne '\ufeff' rfl), hspace, hvalue, hleaf]
  rfl

end Automation.Json
