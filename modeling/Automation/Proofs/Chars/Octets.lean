import Automation.Chars.Octets

/-!
# Octets are read back

The octets of a code point that is no half of a surrogate pair are read as the code point, whatever
stands behind them (`Chars.ofOctetsFrom_octets`). So a text that is a string stays as it is when it is
made one (`Text.legible_of_isString`).
-/

namespace Automation.Chars

variable {c : CodePoint} {b : Begun} {n octet : Nat} {rest : List Nat}

/-! ### One octet -/

theorem ofOctetsFrom_cons (state : Option Begun) :
    ofOctetsFrom state (octet :: rest) =
      (nextOctet state octet).1 ++ ofOctetsFrom (nextOctet state octet).2 rest := by
  cases state <;> rfl

theorem ofOctetsFrom_single (h : n < 0x80) : ofOctetsFrom none (n :: rest) = .ofNat n :: ofOctetsFrom none rest := by
  rw [ofOctetsFrom_cons, nextOctet, firstOctet, if_pos h, List.singleton_append]

theorem ofOctetsFrom_begun (hlarge : 0x80 ≤ octet) (hbegun : begun? octet = some b) :
    ofOctetsFrom none (octet :: rest) = ofOctetsFrom (some b) rest := by
  rw [ofOctetsFrom_cons, nextOctet, firstOctet, if_neg (Nat.not_lt.2 hlarge), hbegun, List.nil_append]

/-- The number that a character which has begun comes to with an octet. -/
def Begun.with (b : Begun) (octet : Nat) : Nat :=
  b.value * 0x40 + (octet - 0x80)

theorem nextOctet_some (hfits : b.least ≤ octet ∧ octet ≤ b.greatest) :
    nextOctet (some b) octet =
      if b.owed ≤ 1 then ([.ofNat (b.with octet)], none)
      else ([], some { value := b.with octet, owed := b.owed - 1 }) := by
  rw [nextOctet, if_pos hfits]
  rfl

theorem ofOctetsFrom_more (hfits : b.least ≤ octet ∧ octet ≤ b.greatest) (howed : 1 < b.owed) :
    ofOctetsFrom (some b) (octet :: rest) =
      ofOctetsFrom (some { value := b.with octet, owed := b.owed - 1 }) rest := by
  rw [ofOctetsFrom_cons, nextOctet_some hfits, if_neg (Nat.not_le.2 howed), List.nil_append]

theorem ofOctetsFrom_last (hfits : b.least ≤ octet ∧ octet ≤ b.greatest) (howed : b.owed = 1) :
    ofOctetsFrom (some b) (octet :: rest) = .ofNat (b.with octet) :: ofOctetsFrom none rest := by
  rw [ofOctetsFrom_cons, nextOctet_some hfits, if_pos (Nat.le_of_eq howed), List.singleton_append]

/-! ### The first of several octets -/

theorem begun?_two (hleast : 0x80 ≤ n) (hn : n < 0x800) :
    begun? (0xc0 + n / 0x40) = some { value := n / 0x40, owed := 1 } := by
  rw [begun?, if_pos (by omega), Nat.add_sub_cancel_left]

/-- Which second octets may follow is so chosen that nothing is written with more octets than it needs
and no half of a pair is written. -/
theorem exists_begun?_three (hleast : 0x800 ≤ n) (hn : n < 0x10000) (hhalf : n < 0xd800 ∨ 0xdfff < n) :
    ∃ b, begun? (0xe0 + n / 0x1000) = some b ∧ b.value = n / 0x1000 ∧ b.owed = 2 ∧
      b.least ≤ 0x80 + n / 0x40 % 0x40 ∧ 0x80 + n / 0x40 % 0x40 ≤ b.greatest := by
  rw [begun?, if_neg (by omega)]
  by_cases hfirst : n / 0x1000 = 0
  · rw [if_pos (by omega)]
    exact ⟨_, rfl, hfirst.symm, rfl, by dsimp only; omega, by dsimp only; omega⟩
  rw [if_neg (by omega)]
  by_cases hlast : n / 0x1000 = 0xd
  · rw [if_pos (by omega)]
    exact ⟨_, rfl, hlast.symm, rfl, by dsimp only; omega, by dsimp only; omega⟩
  rw [if_neg (by omega), if_pos (by omega), Nat.add_sub_cancel_left]
  exact ⟨_, rfl, rfl, rfl, by dsimp only; omega, by dsimp only; omega⟩

theorem exists_begun?_four (hleast : 0x10000 ≤ n) (hn : n < 0x110000) :
    ∃ b, begun? (0xf0 + n / 0x40000) = some b ∧ b.value = n / 0x40000 ∧ b.owed = 3 ∧
      b.least ≤ 0x80 + n / 0x1000 % 0x40 ∧ 0x80 + n / 0x1000 % 0x40 ≤ b.greatest := by
  rw [begun?, if_neg (by omega), if_neg (by omega), if_neg (by omega), if_neg (by omega)]
  by_cases hfirst : n / 0x40000 = 0
  · rw [if_pos (by omega)]
    exact ⟨_, rfl, hfirst.symm, rfl, by dsimp only; omega, by dsimp only; omega⟩
  rw [if_neg (by omega)]
  by_cases hlast : n / 0x40000 = 4
  · rw [if_pos (by omega)]
    exact ⟨_, rfl, hlast.symm, rfl, by dsimp only; omega, by dsimp only; omega⟩
  rw [if_neg (by omega), if_pos (by omega), Nat.add_sub_cancel_left]
  exact ⟨_, rfl, rfl, rfl, by dsimp only; omega, by dsimp only; omega⟩

/-! ### Code points -/

theorem not_half (hc : c.isHalf = false) : c.value < 0xd800 ∨ 0xdfff < c.value := by
  simp only [CodePoint.isHalf, CodePoint.isHighHalf, CodePoint.isLowHalf, Bool.or_eq_false_iff, ← Bool.decide_and,
    decide_eq_false_iff_not] at hc
  omega

theorem ofNat_eq (h : n = c.value) : CodePoint.ofNat n = c :=
  h ▸ CodePoint.ofNat_value c

/-- The octets of a code point are read as the code point. -/
theorem ofOctetsFrom_octets (hc : c.isHalf = false) (rest : List Nat) :
    ofOctetsFrom none (octets c ++ rest) = c :: ofOctetsFrom none rest := by
  have hlt := c.isLt
  have hhalf := not_half hc
  simp only [octets, Nat.div_one]
  by_cases hone : c.value < 0x80
  · rw [if_pos hone, List.singleton_append, ofOctetsFrom_single hone, ofNat_eq rfl]
  rw [if_neg hone]
  by_cases htwo : c.value < 0x800
  · rw [if_pos htwo, List.cons_append, ofOctetsFrom_begun (by omega) (begun?_two (Nat.not_lt.1 hone) htwo),
      List.singleton_append, ofOctetsFrom_last (by dsimp only; omega) rfl, ofNat_eq]
    dsimp only [Begun.with]
    omega
  rw [if_neg htwo]
  by_cases hthree : c.value < 0x10000
  · obtain ⟨b, hbegun, hvalue, howed, hfits⟩ := exists_begun?_three (Nat.not_lt.1 htwo) hthree hhalf
    rw [if_pos hthree, List.cons_append, ofOctetsFrom_begun (by omega) hbegun, List.cons_append,
      ofOctetsFrom_more hfits (by omega), List.singleton_append,
      ofOctetsFrom_last (by dsimp only; omega) (by dsimp only; omega), ofNat_eq]
    dsimp only [Begun.with]
    omega
  · obtain ⟨b, hbegun, hvalue, howed, hfits⟩ := exists_begun?_four (Nat.not_lt.1 hthree) hlt
    rw [if_neg hthree, List.cons_append, ofOctetsFrom_begun (by omega) hbegun, List.cons_append,
      ofOctetsFrom_more hfits (by omega), List.cons_append,
      ofOctetsFrom_more (by dsimp only; omega) (by dsimp only; omega), List.singleton_append,
      ofOctetsFrom_last (by dsimp only; omega) (by dsimp only; omega), ofNat_eq]
    dsimp only [Begun.with]
    omega

end Automation.Chars

namespace Automation.Text

/-- A string needs no replacement characters. -/
theorem legible_of_isString {t : Text} (ht : t.isString) : t.legible = t := by
  induction t with
  | nil => rfl
  | cons c t ih =>
    simp only [isString, List.all_cons, Bool.and_eq_true, Bool.not_eq_true'] at ht
    rw [legible, octets, List.flatMap_cons, ofOctets, Chars.ofOctetsFrom_octets ht.1]
    exact congrArg (c :: ·) (ih ht.2)

end Automation.Text
