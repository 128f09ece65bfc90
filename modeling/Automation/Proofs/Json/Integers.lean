import Automation.Json.Printer
import Automation.Proofs.Json.Document

/-!
# Integers in documents

An integer is written as its digits, behind a minus sign if it is below zero, and these are read back
as the integer (`readNumber_writeInt`). For that it must not have more digits than are read.
-/

namespace Automation.Json

variable {c : CodePoint} {rest : Text} {n : Nat}

/-- The digits of a natural number. -/
def decimal (n : Nat) : Text :=
  (Nat.toDigits 10 n).map .ofChar

theorem ofString_writeInt (n : Int) :
    Text.ofString (writeInt n) = (if n < 0 then [.ofChar '-'] else []) ++ decimal n.natAbs := by
  rw [Text.ofString, writeInt, String.toList_ofList, List.map_append, decimal]
  split <;> rfl

/-! ### Digits -/

theorem isDigit_ofChar {c : Char} (h : c.isDigit) : (CodePoint.ofChar c).isDigit := by
  have hrange : 48 ≤ c.toNat ∧ c.toNat ≤ 57 := by
    simpa [Char.isDigit, UInt32.le_iff_toNat_le] using h
  exact Bool.and_eq_true_iff.2 ⟨decide_eq_true hrange.1, decide_eq_true hrange.2⟩

theorem isDigit_of_mem_decimal (h : c ∈ decimal n) : c.isDigit := by
  obtain ⟨d, hd, rfl⟩ := List.mem_map.1 h
  exact isDigit_ofChar (Nat.isDigit_of_mem_toDigits (by decide) (by decide) hd)

theorem decimal_ne_nil : decimal n ≠ [] := fun h =>
  Nat.toDigits_ne_nil (List.map_eq_nil_iff.1 h)

theorem head?_decimal_append : (decimal n ++ rest).head? = (decimal n).head? := by
  cases h : decimal n with
  | nil => exact absurd h decimal_ne_nil
  | cons c ds => rfl

theorem decimal_eq_cons (n : Nat) : ∃ c ds, c.isDigit ∧ decimal n = c :: ds := by
  cases h : decimal n with
  | nil => exact absurd h decimal_ne_nil
  | cons c ds => exact ⟨c, ds, isDigit_of_mem_decimal (h ▸ List.mem_cons_self), rfl⟩

theorem length_decimal_le {k : Nat} (hk : 0 < k) (h : n < Nat.pow 10 k) : (decimal n).length ≤ k := by
  rw [decimal, List.length_map]
  exact (Nat.length_toDigits_le_iff (by decide) hk).2 h

/-- Only the digits of zero begin with a zero. -/
theorem head?_decimal (h : 0 < n) :
    ∃ d, 0 < d ∧ d < 10 ∧ (decimal n).head? = some (.ofChar (Nat.digitChar d)) := by
  induction n using Nat.strongRecOn with
  | ind n ih =>
    by_cases hlt : n < 10
    · exact ⟨n, h, hlt, by rw [decimal, Nat.toDigits_of_lt_base hlt]; rfl⟩
    · obtain ⟨d, hpos, hd, hhead⟩ := ih (n / 10) (by omega) (by omega)
      refine ⟨d, hpos, hd, ?_⟩
      rw [decimal, Nat.toDigits_of_base_le (by decide) (by omega), List.map_append, ← decimal,
        head?_decimal_append, hhead]

/-- The value of digits is the number they were made of. -/
theorem run_decimal (n : Nat) : Numeral.run (decimal n) = n := by
  have hrun : ∀ (ds : List Char) (m : Nat), (∀ c ∈ ds, c.isDigit) →
      ((ds.map CodePoint.ofChar).filterMap Numeral.asciiDigit).foldl (fun n d => 10 * n + d) m =
        Nat.ofDigitChars 10 ds m := by
    intro ds
    induction ds with
    | nil => exact fun _ _ => rfl
    | cons c ds ih =>
      intro m h
      rw [List.forall_mem_cons] at h
      have hc : Numeral.asciiDigit (.ofChar c) = some (c.toNat - 0x30) := by
        rw [Numeral.asciiDigit, if_pos (isDigit_ofChar h.1)]
        rfl
      rw [List.map_cons, List.filterMap_cons_some hc, List.foldl_cons, ih _ h.2]
      rfl
  have hdigits : ∀ c ∈ Nat.toDigits 10 n, c.isDigit := fun c hc =>
    Nat.isDigit_of_mem_toDigits (by decide) (by decide) hc
  rw [Numeral.run, Numeral.ofDigits, decimal, hrun _ _ hdigits]
  exact Nat.ofDigitChars_ten_toDigits

/-! ### Reading back -/

/-- The whole part of a number is all of its digits. -/
theorem wholePart_decimal : wholePart (decimal n) = decimal n := by
  rw [wholePart_eq]
  split
  · rename_i hzero
    -- No other number begins with a zero, so nothing of the digits is left.
    obtain rfl : n = 0 := by
      by_contra hn
      obtain ⟨d, hpos, hd, hhead⟩ := head?_decimal (Nat.pos_of_ne_zero hn)
      have hne : ∀ d < 10, 0 < d → CodePoint.ofChar (Nat.digitChar d) ≠ .ofChar '0' := by decide
      exact hne d hd hpos (Option.some.inj (hhead.symm.trans hzero))
    rfl
  · exact List.takeWhile_eq_self_iff.2 fun _ => isDigit_of_mem_decimal

/-- Digits do not begin with a minus sign. -/
theorem head?_decimal_ne_minus : (decimal n).head? ≠ some (.ofChar '-') := by
  obtain ⟨c, ds, hc, hdecimal⟩ := decimal_eq_cons n
  rw [hdecimal]
  rintro ⟨rfl⟩
  exact absurd hc (by decide)

theorem behindSign_writeInt (n : Int) : behindSign (writeInt n) = decimal n.natAbs := by
  rw [ofString_writeInt]
  split
  · simp [behindSign]
  · simp only [List.nil_append, behindSign, beq_iff_eq, if_neg head?_decimal_ne_minus]

theorem head?_writeInt (n : Int) : (Text.ofString (writeInt n)).head? = some (.ofChar '-') ↔ n < 0 := by
  rw [ofString_writeInt]
  split
  · simp [*]
  · simp only [List.nil_append, head?_decimal_ne_minus, *]

theorem withSign_natAbs (n : Int) : Numeral.withSign (decide (n < 0)) n.natAbs = n := by
  by_cases hn : n < 0
  · rw [Numeral.withSign, if_pos (decide_eq_true hn)]
    omega
  · rw [Numeral.withSign, if_neg (by simpa using hn)]
    omega

/-- A written integer is read back. -/
theorem readNumber_writeInt {n : Int} (hn : n.natAbs < Nat.pow 10 Numeral.digitLimit) :
    readNumber (writeInt n) = .ok (.int n, []) := by
  have hsign : ((Text.ofString (writeInt n)).head? == some (.ofChar '-')) = decide (n < 0) := by
    rw [Bool.eq_iff_iff, beq_iff_eq, decide_eq_true_iff, head?_writeInt]
  have hbehind : behindWhole (decimal n.natAbs) = [] := by rw [behindWhole, wholePart_decimal, List.drop_length]
  have hlimit : ¬Numeral.digitLimit < (decimal n.natAbs).length :=
    Nat.not_lt.2 (length_decimal_le (by decide) hn)
  have hparts : ofParts (decide (n < 0)) (decimal n.natAbs) [] none = .ok (.int n) := by
    simp [ofParts, hlimit, run_decimal, withSign_natAbs]
  rw [readNumber_ok, behindSign_writeInt, wholePart_decimal, hbehind, hsign]
  exact ⟨decimal_ne_nil, hparts, rfl⟩

end Automation.Json
