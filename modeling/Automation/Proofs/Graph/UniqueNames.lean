import Automation.Graph.Naming
import Mathlib.Algebra.Group.Nat.Defs
import Mathlib.Data.List.Nodup
import Mathlib.Data.List.Perm.Subperm

/-!
# Names of nodes are distinct

The search for a new name is bounded, and this module shows that the bound is enough. Of two
numbered forms of a name that are equal, the numbers have different lengths: forms with equally many
digits share what stands before the digits. So it is enough that among the numbers that are tried
there are more with one length than there are names to avoid, which is a matter of powers of ten.

Main statement: `nodup_uniqueFrom`, whatever names are asked for, those given are pairwise distinct.
-/

namespace Automation.Naming

/-! ### Numbered names -/

/-- The digits of a number. -/
def digitsOf (number : Nat) : Text := toString number

theorem numbered_eq (name : Text) (number : Nat) :
    numbered name number =
      Text.trimEnd (leading ((maxLength : Int) - (digitsOf number).length) name) ++ digitsOf number :=
  rfl

theorem digitsOf_inj {a b : Nat} : digitsOf a = digitsOf b ↔ a = b := by
  refine ⟨fun h => ?_, fun h => h ▸ rfl⟩
  have hs : (toString a).toList = (toString b).toList := by rw [Text.ofString_inj.1 h]
  rw [Nat.toString_eq_repr, Nat.toString_eq_repr, Nat.toList_repr, Nat.toList_repr] at hs
  rw [← Nat.ofDigitChars_ten_toDigits (n := a), hs, Nat.ofDigitChars_ten_toDigits]

theorem length_digitsOf {k number : Nat} (hlow : 10 ^ k ≤ number) (hhigh : number < 10 ^ (k + 1)) :
    (digitsOf number).length = k + 1 := by
  have hlen : (digitsOf number).length = (Nat.toDigits 10 number).length := by
    rw [digitsOf, Text.length_ofString, Nat.toString_eq_repr, ← String.length_toList, Nat.toList_repr]
  have hle := (Nat.length_toDigits_le_iff (b := 10) (by decide) (Nat.succ_pos k)).2 hhigh
  have hpos := Nat.length_toDigits_pos (b := 10) (n := number)
  rw [hlen]
  rcases Nat.eq_zero_or_pos k with rfl | hk
  · omega
  · have hnot : ¬(Nat.toDigits 10 number).length ≤ k := fun h =>
      absurd ((Nat.length_toDigits_le_iff (by decide) hk).1 h) (Nat.not_lt.2 hlow)
    omega

/-- Numbers with equally many digits give different names. -/
theorem numbered_inj {name : Text} {a b : Nat}
    (hlen : (digitsOf a).length = (digitsOf b).length) (h : numbered name a = numbered name b) :
    a = b := by
  rw [numbered_eq, numbered_eq, hlen] at h
  exact digitsOf_inj.1 (List.append_cancel_left h)

/-- The forms of a name with the numbers of `k + 1` digits. -/
def formsWith (name : Text) (k : Nat) : List Text :=
  (List.range' (10 ^ k) (9 * 10 ^ k)).map (numbered name)

theorem length_formsWith (name : Text) (k : Nat) : (formsWith name k).length = 9 * 10 ^ k := by
  simp [formsWith]

theorem mem_formsWith {name form : Text} {k : Nat} :
    form ∈ formsWith name k ↔ ∃ number, 10 ^ k ≤ number ∧ number < 10 ^ (k + 1) ∧ numbered name number = form := by
  simp only [formsWith, List.mem_map, List.mem_range'_1]
  constructor
  · rintro ⟨number, ⟨hlow, hhigh⟩, rfl⟩
    exact ⟨number, hlow, by omega, rfl⟩
  · rintro ⟨number, hlow, hhigh, rfl⟩
    exact ⟨number, ⟨hlow, by omega⟩, rfl⟩

theorem nodup_formsWith (name : Text) (k : Nat) : (formsWith name k).Nodup := by
  refine List.Nodup.map_on ?_ List.nodup_range'
  intro a ha b hb h
  rw [List.mem_range'_1] at ha hb
  have hlen : (digitsOf a).length = (digitsOf b).length := by
    rw [length_digitsOf ha.1 (by omega), length_digitsOf hb.1 (by omega)]
  exact numbered_inj hlen h

/-! ### The search -/

/-- There are more than `n` numbers of one length among the first `12 * (n + 1)`. -/
theorem exists_power (n : Nat) : ∃ k, n < 9 * 10 ^ k ∧ 10 ^ (k + 1) ≤ 12 * (n + 1) + 1 := by
  have step : ∀ k, n < 9 * 10 ^ k → ∃ j, n < 9 * 10 ^ j ∧ 10 ^ (j + 1) ≤ 12 * (n + 1) + 1 := by
    intro k
    -- down to the least exponent whose block is large enough
    induction k with
    | zero => intro h; exact ⟨0, h, by omega⟩
    | succ k ih =>
      intro h
      by_cases hk : n < 9 * 10 ^ k
      · exact ih hk
      · exact ⟨k + 1, h, by rw [Nat.pow_succ, Nat.pow_succ]; omega⟩
  have hn : n < 10 ^ n := Nat.lt_pow_self (by decide)
  exact step n (by omega)

theorem search_not_mem {taken : List Text} {name : Text} {tries number : Nat}
    (h : ∃ m, number ≤ m ∧ m < number + tries ∧ numbered name m ∉ taken) :
    search taken name tries number ∉ taken := by
  induction tries generalizing number with
  | zero => obtain ⟨m, h₁, h₂, -⟩ := h; omega
  | succ tries ih =>
    obtain ⟨m, hlow, hhigh, hm⟩ := h
    rw [search]
    split
    · next hc =>
      have hne : m ≠ number := fun e => hm (e ▸ List.contains_iff_mem.1 hc)
      exact ih ⟨m, by omega, by omega, hm⟩
    · next hc => exact fun hmem => hc (List.contains_iff_mem.2 hmem)

/-- If there are more numbers of `k + 1` digits than names that are taken, one of them gives a new name. -/
theorem exists_new_number (name : Text) {taken : List Text} {k : Nat} (h : taken.length < 9 * 10 ^ k) :
    ∃ number, 10 ^ k ≤ number ∧ number < 10 ^ (k + 1) ∧ numbered name number ∉ taken := by
  have hsub : ¬formsWith name k ⊆ taken := fun hsub => by
    have hle := ((nodup_formsWith name k).subperm hsub).length_le
    rw [length_formsWith] at hle
    omega
  simp only [List.subset_def, not_forall] at hsub
  obtain ⟨form, hform, hnew⟩ := hsub
  obtain ⟨number, hlow, hhigh, rfl⟩ := mem_formsWith.1 hform
  exact ⟨number, hlow, hhigh, hnew⟩

/-- The bound of the search leaves enough numbers of one length. -/
theorem exists_new_within (taken : List Text) (name : Text) :
    ∃ number, 1 ≤ number ∧ number < 1 + 12 * (taken.length + 1) ∧ numbered name number ∉ taken := by
  obtain ⟨k, hk, hbound⟩ := exists_power taken.length
  obtain ⟨number, hlow, hhigh, hnew⟩ := exists_new_number name hk
  have hpos : 0 < 10 ^ k := Nat.pow_pos (by decide)
  exact ⟨number, by omega, by omega, hnew⟩

/-- A new name is new. -/
theorem fresh_not_mem (taken : List Text) (name : Text) : fresh taken name ∉ taken := by
  rw [fresh]
  split
  · exact search_not_mem (exists_new_within taken name)
  · next hc => exact fun hmem => hc (List.contains_iff_mem.2 hmem)

/-! ### Lists of names -/

@[simp] theorem length_uniqueFrom (taken names : List Text) :
    (uniqueFrom taken names).length = names.length := by
  induction names generalizing taken with
  | nil => rfl
  | cons name rest ih => simp [uniqueFrom, ih]

theorem not_mem_of_mem_uniqueFrom {taken names : List Text} {name : Text}
    (h : name ∈ uniqueFrom taken names) : name ∉ taken := by
  induction names generalizing taken with
  | nil => simp [uniqueFrom] at h
  | cons first rest ih =>
    rw [uniqueFrom, List.mem_cons] at h
    rcases h with rfl | h
    · exact fresh_not_mem taken first
    · exact fun hmem => ih h (List.mem_cons_of_mem _ hmem)

/-- Names that are made unique are pairwise distinct. -/
theorem nodup_uniqueFrom (taken names : List Text) : (uniqueFrom taken names).Nodup := by
  induction names generalizing taken with
  | nil => exact List.nodup_nil
  | cons first rest ih =>
    rw [uniqueFrom, List.nodup_cons]
    exact ⟨fun h => not_mem_of_mem_uniqueFrom h List.mem_cons_self, ih _⟩

@[simp] theorem length_names (steps : List (Step × Option NodeDefinition)) :
    (names steps).length = steps.length := by
  simp [names]

/-- The nodes of steps have pairwise distinct names. -/
theorem nodup_names (steps : List (Step × Option NodeDefinition)) : (names steps).Nodup :=
  nodup_uniqueFrom _ _

end Automation.Naming
