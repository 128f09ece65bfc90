import Automation.Json.Reader

/-!
# What a reader has read

For each reader of a part of a document, when it succeeds and with what: an array is read if there
are items up to a closing bracket, a member if there are a key, a colon and a value, and so on.
What else is said of documents that were read is taken from these equivalences.

The items of an array and the members of an object are read in one way. `readSeparated` is that way,
and the readers of both are instances of it.
-/

namespace Automation.Json

/-! ### Results -/

theorem bind_eq_ok {ε α β : Type} {x : Except ε α} {f : α → Except ε β} {b : β} :
    x >>= f = .ok b ↔ ∃ a, x = .ok a ∧ f a = .ok b := by
  cases x <;> simp [bind, Except.bind]

theorem map_eq_ok {ε α β : Type} {x : Except ε α} {f : α → β} {b : β} :
    x.map f = .ok b ↔ ∃ a, x = .ok a ∧ f a = b := by
  cases x <;> simp [Except.map]

theorem toOption_eq_some {ε α : Type} {x : Except ε α} {a : α} : x.toOption = some a ↔ x = .ok a := by
  cases x <;> simp [Except.toOption]

theorem flawAt_ne_ok {α : Type} {flaw : Flaw} {t : Text} {a : α} :
    (flawAt flaw t : Except Fault α) ≠ .ok a :=
  nofun

/-! ### Parts with commas between them -/

section Separated

variable {α : Type} {part : Reader α} {close : CodePoint} {flaw : Flaw} {bound : Nat} {t rest : Text}

/-- Parts from the first one on, with commas between them, up to a closing mark. -/
def readSeparated (part : Reader α) (close : CodePoint) (flaw : Flaw) : Nat → Reader (List α)
  | 0, t => flawAt flaw t
  | bound + 1, t => do
    let (first, rest) ← part t
    match skipSpace rest with
    | [] => flawAt .noComma []
    | c :: rest =>
      if c = close then .ok ([first], rest)
      else if c = ',' then
        let (others, rest) ← readSeparated part close flaw bound (skipSpace rest)
        .ok (first :: others, rest)
      else flawAt .noComma (c :: rest)

theorem readItems_eq (item : Reader Json) (bound : Nat) (t : Text) :
    readItems item bound t = readSeparated item ']' .noValue bound t := by
  induction bound generalizing t with
  | zero => rfl
  | succ bound ih =>
    simp only [readItems, ih]
    rfl

theorem readMembers_eq (item : Reader Json) (bound : Nat) (t : Text) :
    readMembers item bound t = readSeparated (readMember item) '\x7d' .noKey bound t := by
  induction bound generalizing t with
  | zero => rfl
  | succ bound ih =>
    simp only [readMembers, ih]
    rfl

/-- Parts are one part and the closing mark, or one part, a comma and further parts. -/
theorem readSeparated_ok (hclose : close ≠ ',') {parts : List α} :
    readSeparated part close flaw (bound + 1) t = .ok (parts, rest) ↔
      ∃ first t₁, part t = .ok (first, t₁) ∧
        (skipSpace t₁ = close :: rest ∧ parts = [first] ∨
          ∃ t₂ others, skipSpace t₁ = (',' : CodePoint) :: t₂ ∧
            readSeparated part close flaw bound (skipSpace t₂) = .ok (others, rest) ∧
            parts = first :: others) := by
  rw [readSeparated, bind_eq_ok]
  simp only [Prod.exists]
  refine exists_congr fun first => exists_congr fun t₁ => and_congr_right fun _ => ?_
  cases skipSpace t₁ with
  | nil => simp [flawAt_ne_ok]
  | cons c t₂ =>
    by_cases hc : c = close
    · subst hc
      simp [hclose, eq_comm, and_comm]
    by_cases hcomma : c = (',' : CodePoint)
    · subst hcomma
      simp only [hc, if_false, if_true, bind_eq_ok, Prod.exists, Except.ok.injEq, Prod.mk.injEq,
        List.cons.injEq, false_and, false_or, true_and]
      exact ⟨fun ⟨others, _, h, hparts, hrest⟩ => ⟨t₂, others, rfl, hrest ▸ h, hparts.symm⟩,
        fun ⟨_, others, ht, h, hparts⟩ => ⟨others, rest, ht ▸ h, hparts.symm, rfl⟩⟩
    · simp [flawAt_ne_ok, hc, hcomma]

end Separated

/-! ### Texts in quotes -/

section Points

variable {opening t : Text} {c : CodePoint}

/-- What holds of hexadecimal digits holds of the digits of a unit. -/
theorem forall_mem_hexUnit {p : CodePoint → Prop} (hp : ∀ {c n}, hexValue c = some n → p c)
    {a b d e : CodePoint} {n : Nat} (hunit : hexUnit a b d e = some n) : ∀ c ∈ [a, b, d, e], p c := by
  simp only [hexUnit, Option.bind_eq_bind, Option.bind_eq_some_iff] at hunit
  obtain ⟨_, ha, _, hb, _, hd, _, he, -⟩ := hunit
  simp [hp ha, hp hb, hp hd, hp he]

theorem readPoints_quote : readPoints opening (.ofChar '"' :: t) = .ok ([], t) := by
  unfold readPoints
  simp

theorem readPoints_unit {a b d e : CodePoint} {n : Nat} (hunit : hexUnit a b d e = some n) (ht : t ≠ []) :
    readPoints opening (.ofChar '\\' :: .ofChar 'u' :: a :: b :: d :: e :: t) =
      (readPoints opening t).map fun (ws, rest) => (⟨.ofNat n, true⟩ :: ws, rest) := by
  cases t with
  | nil => exact absurd rfl ht
  | cons c t =>
    rw [readPoints.eq_def]
    simp [hunit]

theorem readPoints_escape {p : CodePoint} (hunit : c ≠ 'u') (hp : escaped? c = some p) :
    readPoints opening (.ofChar '\\' :: c :: t) =
      (readPoints opening t).map fun (ws, rest) => (⟨p, false⟩ :: ws, rest) := by
  rw [readPoints.eq_def]
  simp [hunit, hp]

theorem readPoints_plain (hquote : c ≠ '"') (hslash : c ≠ '\\') (hcontrol : ¬c.value < 0x20) :
    readPoints opening (c :: t) =
      (readPoints opening t).map fun (ws, rest) => (⟨c, false⟩ :: ws, rest) := by
  rw [readPoints.eq_def]
  simp [hquote, hslash, hcontrol]

end Points

/-! ### Parts of documents -/

variable {item : Reader Json} {depth : Nat} {t rest : Text}

theorem readText_ok {quote : CodePoint} {text : Text} : readText quote t = .ok (text, rest) ↔
    ∃ written, readPoints (quote :: t) t = .ok (written, rest) ∧ joinPairs written = text := by
  simp only [readText, map_eq_ok, Prod.exists, Prod.mk.injEq]
  exact ⟨fun ⟨written, _, h, htext, hrest⟩ => ⟨written, hrest ▸ h, htext⟩,
    fun ⟨written, h, htext⟩ => ⟨written, rest, h, htext, rfl⟩⟩

/-- A member is a key in quotes, a colon and a value. -/
theorem readMember_ok {member : Text × Json} : readMember item t = .ok (member, rest) ↔
    ∃ t₁ t₂ t₃, t = ('"' : CodePoint) :: t₁ ∧ readText '"' t₁ = .ok (member.1, t₂) ∧
      skipSpace t₂ = (':' : CodePoint) :: t₃ ∧ item (skipSpace t₃) = .ok (member.2, rest) := by
  cases t with
  | nil => simp [readMember, flawAt_ne_ok]
  | cons c t₁ =>
    by_cases hquote : c = ('"' : CodePoint)
    · subst hquote
      rw [readMember, if_pos rfl, bind_eq_ok]
      simp only [Prod.exists, List.cons.injEq, true_and]
      constructor
      · rintro ⟨key, t₂, hkey, h⟩
        cases hcolon : skipSpace t₂ with
        | nil => simp [hcolon, flawAt_ne_ok] at h
        | cons c t₃ =>
          by_cases hc : c = (':' : CodePoint)
          · subst hc
            simp only [hcolon, if_true, bind_eq_ok, Prod.exists, Except.ok.injEq, Prod.mk.injEq] at h
            obtain ⟨value, _, hvalue, rfl, rfl⟩ := h
            exact ⟨t₁, t₂, t₃, rfl, hkey, hcolon, hvalue⟩
          · simp [hcolon, hc, flawAt_ne_ok] at h
      · rintro ⟨_, t₂, t₃, rfl, hkey, hcolon, hvalue⟩
        refine ⟨member.1, t₂, hkey, ?_⟩
        simp [hcolon, hvalue, bind, Except.bind]
    · simp [readMember, hquote, flawAt_ne_ok]

/-- An array is nothing or items up to the closing bracket. -/
theorem readArray_ok {v : Json} : readArray item t = .ok (v, rest) ↔
    skipSpace t = (']' : CodePoint) :: rest ∧ v = array [] ∨
      ∃ c t₁ items, skipSpace t = c :: t₁ ∧ c ≠ ']' ∧
        readSeparated item ']' .noValue (t₁.length + 1) (c :: t₁) = .ok (items, rest) ∧ v = array items := by
  unfold readArray
  cases skipSpace t with
  | nil => simp [flawAt_ne_ok]
  | cons c t₁ =>
    by_cases hclose : c = (']' : CodePoint)
    · subst hclose
      simp [eq_comm, and_comm]
    · simp only [hclose, if_false, readItems_eq, map_eq_ok, Prod.exists, Prod.mk.injEq, List.cons.injEq,
        false_and, false_or]
      exact ⟨fun ⟨items, _, h, hv, hrest⟩ => ⟨c, t₁, items, ⟨rfl, rfl⟩, hclose, hrest ▸ h, hv.symm⟩,
        fun ⟨_, _, items, ⟨hc, ht⟩, _, h, hv⟩ => ⟨items, rest, hc ▸ ht ▸ h, hv.symm, rfl⟩⟩

/-- An object is nothing or members up to the closing brace. -/
theorem readObject_ok {v : Json} : readObject item t = .ok (v, rest) ↔
    skipSpace t = ('\x7d' : CodePoint) :: rest ∧ v = object [] ∨
      ∃ c t₁ members, skipSpace t = c :: t₁ ∧ c ≠ '\x7d' ∧
        readSeparated (readMember item) '\x7d' .noKey (t₁.length + 1) (c :: t₁) = .ok (members, rest) ∧
        v = object (Members.putAll [] members) := by
  unfold readObject
  cases skipSpace t with
  | nil => simp [flawAt_ne_ok]
  | cons c t₁ =>
    by_cases hclose : c = ('\x7d' : CodePoint)
    · subst hclose
      simp [eq_comm, and_comm]
    · simp only [hclose, if_false, readMembers_eq, map_eq_ok, Prod.exists, Prod.mk.injEq, List.cons.injEq,
        false_and, false_or]
      exact ⟨fun ⟨members, _, h, hv, hrest⟩ => ⟨c, t₁, members, ⟨rfl, rfl⟩, hclose, hrest ▸ h, hv.symm⟩,
        fun ⟨_, _, members, ⟨hc, ht⟩, _, h, hv⟩ => ⟨members, rest, hc ▸ ht ▸ h, hv.symm, rfl⟩⟩

/-- Whether a text begins as an array or an object does. -/
def OpensLevel (t : Text) : Prop :=
  t.head? = some (.ofChar '[') ∨ t.head? = some (.ofChar '\x7b')

instance : Decidable (OpensLevel t) :=
  inferInstanceAs (Decidable (_ ∨ _))

theorem readLeaf_nil_ne_ok {v : Json} : readLeaf [] ≠ .ok (v, rest) :=
  nofun

/-- A value without levels is no array and no object. -/
theorem readValue_zero_ok {v : Json} : readValue 0 t = .ok (v, rest) ↔
    ¬OpensLevel t ∧ readLeaf t = .ok (v, rest) := by
  have hzero : readValue 0 t = if OpensLevel t then .error (.beyond .depth) else readLeaf t := rfl
  by_cases h : OpensLevel t <;> simp [hzero, h]

/-- A value is an array, an object or neither. -/
theorem readValue_succ_ok {v : Json} : readValue (depth + 1) t = .ok (v, rest) ↔
    (∃ t₁, t = ('[' : CodePoint) :: t₁ ∧ readArray (readValue depth) t₁ = .ok (v, rest)) ∨
      (∃ t₁, t = ('\x7b' : CodePoint) :: t₁ ∧ readObject (readValue depth) t₁ = .ok (v, rest)) ∨
      ¬OpensLevel t ∧ readLeaf t = .ok (v, rest) := by
  cases t with
  | nil => simp [readValue, flawAt_ne_ok, readLeaf_nil_ne_ok]
  | cons c t₁ =>
    by_cases harray : c = ('[' : CodePoint)
    · subst harray
      simp [readValue, OpensLevel]
    by_cases hobject : c = ('\x7b' : CodePoint)
    · subst hobject
      simp [readValue, OpensLevel]
    · simp [readValue, OpensLevel, harray, hobject]

/-- A leaf is a word, a text in quotes or a number. -/
theorem readLeaf_ok {v : Json} : readLeaf t = .ok (v, rest) ↔
    readWord t = some (v, rest) ∨
      readWord t = none ∧
        ((∃ t₁ text, t = ('"' : CodePoint) :: t₁ ∧ readText '"' t₁ = .ok (text, rest) ∧ v = .text text) ∨
          (∃ c t₁, t = c :: t₁ ∧ c ≠ '"') ∧ ∃ n, readNumber t = .ok (n, rest) ∧ v = number n) := by
  unfold readLeaf
  cases readWord t with
  | some result => simp
  | none =>
    cases t with
    | nil => simp [flawAt_ne_ok]
    | cons c t₁ =>
      by_cases hquote : c = ('"' : CodePoint)
      · subst hquote
        simp only [if_true, map_eq_ok, Prod.exists, Prod.mk.injEq, reduceCtorEq, false_or, true_and]
        constructor
        · rintro ⟨text, _, htext, rfl, rfl⟩
          exact .inl ⟨t₁, text, rfl, htext, rfl⟩
        · rintro (⟨_, text, ht, htext, rfl⟩ | ⟨⟨c, _, ht, hne⟩, _⟩)
          · obtain ⟨-, rfl⟩ := List.cons.inj ht
            exact ⟨text, rest, htext, rfl, rfl⟩
          · exact absurd (List.cons.inj ht).1.symm hne
      · simp only [hquote, if_false, map_eq_ok, Prod.exists, Prod.mk.injEq, reduceCtorEq, false_or, true_and]
        constructor
        · rintro ⟨n, _, hn, rfl, rfl⟩
          exact .inr ⟨⟨c, t₁, rfl, hquote⟩, n, hn, rfl⟩
        · rintro (⟨_, _, ht, -⟩ | ⟨-, n, hn, rfl⟩)
          · exact absurd (List.cons.inj ht).1 hquote
          · exact ⟨n, rest, hn, rfl, rfl⟩

end Automation.Json
