import Automation.Json.Printer
import Automation.Proofs.Json.Parts

/-!
# Texts in quotes

A text in quotes is read back as the text (`readText_quoted`). Each code point of it is written as a
piece of its own, and a piece is read as its code point whatever stands behind it: halves of surrogate
pairs come only from the two escapes of one character, and what stands before and behind is never
joined with them.
-/

namespace Automation.Json

variable {c : CodePoint} {piece t rest : Text} {ascii : Bool} {n : Nat}

/-! ### Hexadecimal digits -/

/-- One hexadecimal digit. -/
def hexDigit (d : Nat) : CodePoint :=
  .ofChar (Nat.digitChar d)

theorem hexDigits_succ {width : Nat} (hwidth : 0 < width) (n : Nat) :
    hexDigits (width + 1) n = hexDigits width (n / 16) ++ [hexDigit (n % 16)] := by
  by_cases hn : n < 16
  · rw [hexDigits, hexDigits, Nat.div_eq_of_lt hn, Nat.mod_eq_of_lt hn, Nat.toDigits_of_lt_base hn]
    cases width with
    | zero => exact absurd hwidth (Nat.lt_irrefl 0)
    | succ width => simp [hexDigit, List.replicate_succ']
  · rw [hexDigits, hexDigits, Nat.toDigits_of_base_le (by decide) (Nat.not_lt.1 hn)]
    simp [hexDigit]

theorem hexDigits_one (h : n < 16) : hexDigits 1 n = [hexDigit n] := by
  rw [hexDigits, Nat.toDigits_of_lt_base h]
  rfl

theorem hexValue_hexDigit (h : n < 16) : hexValue (hexDigit n) = some n := by
  have hall : ∀ n < 16, hexValue (hexDigit n) = some n := by decide
  exact hall n h

/-- The four digits of a unit name the unit. -/
theorem exists_hexDigits_four (h : n < 0x10000) :
    ∃ x y z w, hexDigits 4 n = [x, y, z, w] ∧ hexUnit x y z w = some n := by
  refine ⟨hexDigit (n / 16 / 16 / 16), hexDigit (n / 16 / 16 % 16), hexDigit (n / 16 % 16), hexDigit (n % 16),
    ?_, ?_⟩
  · rw [hexDigits_succ (by decide), hexDigits_succ (by decide), hexDigits_succ (by decide),
      hexDigits_one (by omega)]
    rfl
  · have hvalues (d : Nat) (hd : d < 16) : hexValue (hexDigit d) = some d := hexValue_hexDigit hd
    rw [hexUnit, hvalues _ (by omega), hvalues _ (by omega), hvalues _ (by omega), hvalues _ (by omega)]
    simp only [Option.bind_eq_bind, Option.bind_some, Option.pure_def, Option.some.injEq]
    omega

/-! ### Halves of pairs -/

theorem value_ofNat (h : n < 0x110000) : (CodePoint.ofNat n).value = n := by
  rw [CodePoint.ofNat, dif_pos h]

theorem eq_of_value {d : CodePoint} (h : c.value = d.value) : c = d := by
  rw [← CodePoint.ofNat_value c, h, CodePoint.ofNat_value]

/-- The first half of the pair that a character beyond the units is taken apart to. -/
def highHalf (c : CodePoint) : Nat :=
  0xd800 + (c.value - 0x10000) / 0x400

/-- The second half of the pair. -/
def lowHalf (c : CodePoint) : Nat :=
  0xdc00 + (c.value - 0x10000) % 0x400

theorem highHalf_le (c : CodePoint) : highHalf c ≤ 0xdbff := by
  have hlt := c.isLt
  unfold highHalf
  omega

theorem lowHalf_le (c : CodePoint) : lowHalf c ≤ 0xdfff := by
  unfold lowHalf
  omega

theorem isHighHalf_highHalf (c : CodePoint) : (CodePoint.ofNat (highHalf c)).isHighHalf := by
  have hle := highHalf_le c
  rw [CodePoint.isHighHalf, value_ofNat (by omega), ← Bool.decide_and, decide_eq_true_iff]
  exact ⟨Nat.le_add_right _ _, hle⟩

theorem isLowHalf_lowHalf (c : CodePoint) : (CodePoint.ofNat (lowHalf c)).isLowHalf := by
  have hle := lowHalf_le c
  rw [CodePoint.isLowHalf, value_ofNat (by omega), ← Bool.decide_and, decide_eq_true_iff]
  exact ⟨Nat.le_add_right _ _, hle⟩

/-- The halves that a character is taken apart to are joined to the character. -/
theorem joinHalves_halves (h : 0x10000 ≤ c.value) :
    CodePoint.joinHalves (.ofNat (highHalf c)) (.ofNat (lowHalf c)) = c := by
  have hhigh := highHalf_le c
  have hlow := lowHalf_le c
  have hsum : 0x10000 + (highHalf c - 0xd800) * 0x400 + (lowHalf c - 0xdc00) = c.value := by
    unfold highHalf lowHalf
    omega
  rw [CodePoint.joinHalves, value_ofNat (by omega), value_ofNat (by omega), hsum, CodePoint.ofNat_value]

/-! ### Pieces -/

/-- The ways in which a code point is written between quotes: as it is, or by an escape. -/
inductive WrittenAs (c : CodePoint) : Option Text → Prop where
  /-- The code point stands for itself. -/
  | plain (hquote : c ≠ '"') (hslash : c ≠ '\\') (hcontrol : ¬c.value < 0x20) : WrittenAs c none
  /-- The code point has an escape of one letter. -/
  | letter {letter : CodePoint} (hunit : letter ≠ 'u') (hletter : escaped? letter = some c) :
    WrittenAs c (some [.ofChar '\\', letter])
  /-- The code point is a unit. -/
  | unit (hunit : c.value < 0x10000) : WrittenAs c (some (escapeUnit c.value))
  /-- The code point is a character of two units. -/
  | pair (hpair : 0x10000 ≤ c.value) :
    WrittenAs c (some (escapeUnit (highHalf c) ++ escapeUnit (lowHalf c)))

theorem writtenAs_escape? (ascii : Bool) (c : CodePoint) : WrittenAs c (escape? ascii c) := by
  have hletter {d letter : CodePoint} (hvalue : c.value = d.value) (h : letter ≠ 'u' ∧ escaped? letter = some d) :
      WrittenAs c (some [.ofChar '\\', letter]) := .letter h.1 (eq_of_value hvalue ▸ h.2)
  simp only [escape?]
  by_cases hquote : c.value = 0x22
  · rw [if_pos hquote]
    exact hletter (d := '"') hquote (by decide)
  by_cases hslash : c.value = 0x5c
  · rw [if_neg hquote, if_pos hslash]
    exact hletter (d := '\\') hslash (by decide)
  rw [if_neg hquote, if_neg hslash]
  by_cases hback : c.value = 0x8
  · rw [if_pos hback]
    exact hletter (d := .ofNat 0x8) hback (by decide)
  by_cases hform : c.value = 0xc
  · rw [if_neg hback, if_pos hform]
    exact hletter (d := .ofNat 0xc) hform (by decide)
  rw [if_neg hback, if_neg hform]
  by_cases hfeed : c.value = 0xa
  · rw [if_pos hfeed]
    exact hletter (d := '\n') hfeed (by decide)
  by_cases hreturn : c.value = 0xd
  · rw [if_neg hfeed, if_pos hreturn]
    exact hletter (d := '\r') hreturn (by decide)
  by_cases htab : c.value = 0x9
  · rw [if_neg hfeed, if_neg hreturn, if_pos htab]
    exact hletter (d := '\t') htab (by decide)
  rw [if_neg hfeed, if_neg hreturn, if_neg htab]
  by_cases hcontrol : c.value < 0x20
  · rw [if_pos hcontrol]
    exact .unit (by omega)
  rw [if_neg hcontrol]
  split
  · refine .plain ?_ ?_ hcontrol
    · rintro rfl
      exact hquote rfl
    · rintro rfl
      exact hslash rfl
  split
  · exact .unit ‹_›
  · exact .pair (by omega)

/-- A piece of a text in quotes that is read as a code point, whatever stands behind it. -/
def Spells (piece : Text) (c : CodePoint) : Prop :=
  ∃ written : List Written, (∀ more, joinPairs (written ++ more) = c :: joinPairs more) ∧
    ∀ opening rest, rest ≠ [] →
      readPoints opening (piece ++ rest) =
        (readPoints opening rest).map fun (more, rest) => (written ++ more, rest)

/-- A code point that is no half is joined with nothing. -/
theorem joinPairs_cons (hc : c.isHalf = false) (asUnit : Bool) (more : List Written) :
    joinPairs (⟨c, asUnit⟩ :: more) = c :: joinPairs more := by
  have hhigh : c.isHighHalf = false := (Bool.or_eq_false_iff.1 hc).1
  cases more with
  | nil => rfl
  | cons w more => simp [joinPairs, hhigh]

theorem spells_plain (hc : c.isHalf = false) (hquote : c ≠ '"') (hslash : c ≠ '\\') (hcontrol : ¬c.value < 0x20) :
    Spells [c] c :=
  ⟨[⟨c, false⟩], joinPairs_cons hc false, fun _ _ _ => readPoints_plain hquote hslash hcontrol⟩

theorem spells_letter {letter : CodePoint} (hc : c.isHalf = false) (hunit : letter ≠ 'u')
    (hletter : escaped? letter = some c) : Spells [.ofChar '\\', letter] c :=
  ⟨[⟨c, false⟩], joinPairs_cons hc false, fun _ _ _ => readPoints_escape hunit hletter⟩

/-- The escape of a unit is read as the unit. -/
theorem readPoints_escapeUnit (hn : n < 0x10000) (opening : Text) (hrest : rest ≠ []) :
    readPoints opening (escapeUnit n ++ rest) =
      (readPoints opening rest).map fun (more, rest) => (⟨.ofNat n, true⟩ :: more, rest) := by
  obtain ⟨x, y, z, w, hdigits, hunit⟩ := exists_hexDigits_four hn
  rw [escapeUnit, hdigits]
  exact readPoints_unit hunit hrest

theorem spells_unit (hc : c.isHalf = false) (h : c.value < 0x10000) : Spells (escapeUnit c.value) c := by
  refine ⟨[⟨c, true⟩], joinPairs_cons hc true, fun opening rest hrest => ?_⟩
  rw [readPoints_escapeUnit h opening hrest, CodePoint.ofNat_value]
  rfl

/-- The two halves of a character are joined to it. -/
theorem spells_pair (h : 0x10000 ≤ c.value) : Spells (escapeUnit (highHalf c) ++ escapeUnit (lowHalf c)) c := by
  have hhigh : highHalf c < 0x10000 := Nat.lt_of_le_of_lt (highHalf_le c) (by decide)
  have hlow : lowHalf c < 0x10000 := Nat.lt_of_le_of_lt (lowHalf_le c) (by decide)
  refine ⟨[⟨.ofNat (highHalf c), true⟩, ⟨.ofNat (lowHalf c), true⟩], fun more => ?_, fun opening rest hrest => ?_⟩
  · simp [joinPairs, isHighHalf_highHalf, isLowHalf_lowHalf, joinHalves_halves h]
  · have hnext : escapeUnit (lowHalf c) ++ rest ≠ [] := List.append_ne_nil_of_right_ne_nil _ hrest
    rw [List.append_assoc, readPoints_escapeUnit hhigh opening hnext, readPoints_escapeUnit hlow opening hrest]
    cases readPoints opening rest <;> rfl

/-- Every code point that is no half is written as a piece that spells it. -/
theorem spells_escape (hc : c.isHalf = false) (ascii : Bool) : Spells ((escape? ascii c).getD [c]) c := by
  have hwritten := writtenAs_escape? ascii c
  generalize escape? ascii c = escape at hwritten ⊢
  cases hwritten with
  | plain hquote hslash hcontrol => exact spells_plain hc hquote hslash hcontrol
  | letter hunit hletter => exact spells_letter hc hunit hletter
  | unit hunit => exact spells_unit hc hunit
  | pair hpair => exact spells_pair hpair

/-! ### Texts -/

/-- What a text is written as between its quotes. -/
def escaped (ascii : Bool) (t : Text) : Text :=
  t.flatMap fun c => (escape? ascii c).getD [c]

theorem quoted_append (ascii : Bool) (t rest : Text) :
    quoted ascii t ++ rest = .ofChar '"' :: (escaped ascii t ++ .ofChar '"' :: rest) := by
  simp [quoted, escaped, Text.ofString]

/-- The pieces of a text are read one after the other, up to the closing quote. -/
theorem readPoints_escaped (ht : t.isString) (ascii : Bool) (opening rest : Text) :
    ∃ written, readPoints opening (escaped ascii t ++ .ofChar '"' :: rest) = .ok (written, rest) ∧
      joinPairs written = t := by
  induction t with
  | nil => exact ⟨[], readPoints_quote, rfl⟩
  | cons c t ih =>
    simp only [Text.isString, List.all_cons, Bool.and_eq_true, Bool.not_eq_true'] at ht
    obtain ⟨more, hmore, hjoin⟩ := ih ht.2
    obtain ⟨written, hwritten, hread⟩ := spells_escape ht.1 ascii
    refine ⟨written ++ more, ?_, by rw [hwritten, hjoin]⟩
    have hrest : escaped ascii t ++ .ofChar '"' :: rest ≠ [] := by simp
    rw [escaped, List.flatMap_cons, ← escaped, List.append_assoc, hread opening _ hrest]
    exact map_eq_ok.2 ⟨(more, rest), hmore, rfl⟩

/-- A text in quotes without halves of pairs is read back. -/
theorem readText_quoted (ht : t.isString) (ascii : Bool) (rest : Text) :
    readText '"' (escaped ascii t ++ .ofChar '"' :: rest) = .ok (t, rest) :=
  readText_ok.2 (readPoints_escaped ht ascii _ rest)

end Automation.Json
