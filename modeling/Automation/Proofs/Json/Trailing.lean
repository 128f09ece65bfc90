import Automation.Proofs.Json.Level
import Mathlib.Data.List.TakeWhile

/-!
# Space behind a document

A document may end in space. No reader reads on into it: what is read of a text with space behind it
is read of the text without, and the space is left (`IgnoresTrailing`). A number could go on where it
ends, and the items of an array are counted against the length of the text, so both need a closer
look; everything else ends with a mark of its own. Of a number the same is so with anything behind it
that a number cannot hold (`readNumber_append_ok`).
-/

namespace Automation.Json

variable {α : Type} {c : CodePoint} {t x q rest : Text}

/-- A reader that takes nothing of the space behind a text. -/
def IgnoresTrailing (q : Text) (r : Reader α) : Prop :=
  ∀ ⦃x a rest⦄, r (x ++ q) = .ok (a, rest) → ∃ y, rest = y ++ q ∧ r x = .ok (a, y)

/-! ### Space -/

theorem isSpace_iff : isSpace c ↔
    c = (' ' : CodePoint) ∨ c = ('\t' : CodePoint) ∨ c = ('\n' : CodePoint) ∨ c = ('\r' : CodePoint) := by
  simp only [isSpace, Bool.or_eq_true, beq_iff_eq, or_assoc]

theorem not_isDigit_of_isSpace (h : isSpace c) : c.isDigit = false := by
  rcases isSpace_iff.1 h with rfl | rfl | rfl | rfl <;> rfl

theorem ne_of_isSpace {d : CodePoint} (hc : isSpace c) (hd : isSpace d = false) : c ≠ d := by
  rintro rfl
  cases hd.symm.trans hc

theorem not_mem_of_space (hq : ∀ c ∈ q, isSpace c) (hc : isSpace c = false) : c ∉ q :=
  fun hmem => ne_of_isSpace (hq c hmem) hc rfl

theorem skipSpace_of_space (hq : ∀ c ∈ q, isSpace c) : skipSpace q = [] := by
  rw [skipSpace, List.dropWhile_eq_nil_iff]
  exact hq

/-- What begins with something else than space begins before the space behind it. -/
theorem eq_append_of_cons (hq : ∀ c ∈ q, isSpace c) (hc : isSpace c = false) (h : x ++ q = c :: t) :
    ∃ y, x = c :: y ∧ y ++ q = t := by
  cases x with
  | nil =>
    subst h
    exact absurd List.mem_cons_self (not_mem_of_space hq hc)
  | cons d y =>
    obtain ⟨rfl, rfl⟩ := List.cons.inj h
    exact ⟨y, rfl, rfl⟩

theorem eq_append_of_append {w : Text} (hq : ∀ c ∈ q, isSpace c) (hw : ∀ c ∈ w, isSpace c = false)
    (h : x ++ q = w ++ t) : ∃ y, x = w ++ y ∧ y ++ q = t := by
  induction w generalizing x with
  | nil => exact ⟨x, rfl, h⟩
  | cons c w ih =>
    rw [List.forall_mem_cons] at hw
    obtain ⟨x₁, rfl, h₁⟩ := eq_append_of_cons hq hw.1 h
    obtain ⟨y, rfl, hy⟩ := ih hw.2 h₁
    exact ⟨y, rfl, hy⟩

theorem skipSpace_append (hq : ∀ c ∈ q, isSpace c) (x : Text) :
    skipSpace x = [] ∧ skipSpace (x ++ q) = [] ∨ skipSpace (x ++ q) = skipSpace x ++ q := by
  induction x with
  | nil => exact .inl ⟨rfl, skipSpace_of_space hq⟩
  | cons c x ih =>
    by_cases hc : isSpace c
    · simpa [skipSpace, hc] using ih
    · simp [skipSpace, hc]

theorem skipSpace_append_eq_cons (hq : ∀ c ∈ q, isSpace c) (h : skipSpace (x ++ q) = c :: t) :
    ∃ y, skipSpace x = c :: y ∧ y ++ q = t := by
  have hc : isSpace c = false := by
    have hhead := List.head?_dropWhile_not isSpace (x ++ q)
    rw [show (x ++ q).dropWhile isSpace = c :: t from h] at hhead
    simpa using hhead
  rcases skipSpace_append hq x with ⟨-, hnil⟩ | happend
  · cases hnil.symm.trans h
  · exact eq_append_of_cons hq hc (happend.symm.trans h)

/-- A reader that ignores trailing space does so behind space. -/
theorem IgnoresTrailing.skipSpace {r : Reader α} (hq : ∀ c ∈ q, isSpace c) (htakes : TakesLevel r)
    (h : IgnoresTrailing q r) : IgnoresTrailing q fun t => r (skipSpace t) := by
  intro x a rest (hr : r (Json.skipSpace (x ++ q)) = .ok (a, rest))
  rcases skipSpace_append hq x with ⟨-, hnil⟩ | happend
  · rw [hnil] at hr
    exact absurd (htakes hr).2 (Nat.not_lt_zero _)
  · rw [happend] at hr
    exact h hr

/-! ### Texts -/

theorem not_isSpace_of_hexValue {n : Nat} (h : hexValue c = some n) : isSpace c = false := by
  by_contra hc
  rcases isSpace_iff.1 (Bool.not_eq_false _ ▸ hc) with rfl | rfl | rfl | rfl <;> cases h

theorem not_isSpace_of_escaped? {p : CodePoint} (h : escaped? c = some p) : isSpace c = false := by
  by_contra hc
  rcases isSpace_iff.1 (Bool.not_eq_false _ ▸ hc) with rfl | rfl | rfl | rfl <;> cases h

/-- Where a text in quotes begins matters to its faults only. -/
theorem readPoints_append {opening opening' : Text} {written : List Written} (hq : ∀ c ∈ q, isSpace c)
    (h : readPoints opening (x ++ q) = .ok (written, rest)) :
    ∃ y, rest = y ++ q ∧ readPoints opening' x = .ok (written, y) := by
  generalize ht : x ++ q = t at h
  fun_induction readPoints opening t generalizing x q written with
  | case1 | case3 | case5 | case6 | case8 | case9 => exact absurd h flawAt_ne_ok
  | case2 t =>
    obtain ⟨rfl, rfl⟩ := Prod.mk.inj (Except.ok.inj h)
    obtain ⟨y, rfl, rfl⟩ := eq_append_of_cons hq (by decide) ht
    exact ⟨y, rfl, readPoints_quote⟩
  | case4 a b d e n c t hunit _ ih =>
    obtain ⟨⟨ws, _⟩, hws, heq⟩ := map_eq_ok.1 h
    obtain ⟨rfl, rfl⟩ := Prod.mk.inj heq
    obtain ⟨x₁, rfl, h₁⟩ := eq_append_of_cons hq (by decide) ht
    obtain ⟨x₂, rfl, h₂⟩ := eq_append_of_cons hq (by decide) h₁
    obtain ⟨z, rfl, h₃⟩ := eq_append_of_append (w := [a, b, d, e]) hq
      (forall_mem_hexUnit not_isSpace_of_hexValue hunit) h₂
    obtain ⟨y, rfl, hy⟩ := ih hq h₃ hws
    -- A text has to end somewhere, so something follows the unit.
    have hz : z ≠ [] := by
      rintro rfl
      cases hy
    exact ⟨y, rfl, (readPoints_unit hunit hz).trans (by rw [hy]; rfl)⟩
  | case7 e t hu p hp _ ih =>
    obtain ⟨⟨ws, _⟩, hws, heq⟩ := map_eq_ok.1 h
    obtain ⟨rfl, rfl⟩ := Prod.mk.inj heq
    obtain ⟨x₁, rfl, h₁⟩ := eq_append_of_cons hq (by decide) ht
    obtain ⟨z, rfl, h₂⟩ := eq_append_of_cons hq (not_isSpace_of_escaped? hp) h₁
    obtain ⟨y, rfl, hy⟩ := ih hq h₂ hws
    exact ⟨y, rfl, by rw [readPoints_escape hu hp, hy]; rfl⟩
  | case10 c t hquote hslash hcontrol ih =>
    obtain ⟨⟨ws, _⟩, hws, heq⟩ := map_eq_ok.1 h
    obtain ⟨rfl, rfl⟩ := Prod.mk.inj heq
    cases x with
    | nil =>
      -- Space has no quote that could end the text.
      subst ht
      obtain ⟨_, -, hy⟩ := ih (List.forall_mem_cons.1 hq).2 (List.nil_append t) hws
      cases hy
    | cons d x =>
      obtain ⟨rfl, rfl⟩ := List.cons.inj ht
      obtain ⟨y, rfl, hy⟩ := ih hq rfl hws
      exact ⟨y, rfl, by rw [readPoints_plain hquote hslash hcontrol, hy]; rfl⟩

theorem ignoresTrailing_readText (hq : ∀ c ∈ q, isSpace c) (quote : CodePoint) :
    IgnoresTrailing q (readText quote) := by
  intro x text rest h
  obtain ⟨written, hpoints, htext⟩ := readText_ok.1 h
  obtain ⟨y, rfl, hy⟩ := readPoints_append hq hpoints
  exact ⟨y, rfl, readText_ok.2 ⟨written, hy, htext⟩⟩

/-! ### Words and numbers -/

/-- A text without space begins a text if and only if it begins it with space behind. -/
theorem prefix_append_space {w : Text} (hq : ∀ c ∈ q, isSpace c) (hw : ∀ c ∈ w, isSpace c = false) :
    w <+: x ++ q ↔ w <+: x := by
  refine ⟨fun h => ?_, fun h => h.trans (List.prefix_append x q)⟩
  rcases List.prefix_or_prefix_of_prefix h (List.prefix_append x q) with h' | ⟨z, rfl⟩
  · exact h'
  cases z with
  | nil => simp
  | cons c z =>
    have hmem : c ∈ q := ((List.prefix_append_right_inj x).1 h).subset List.mem_cons_self
    exact absurd hmem (not_mem_of_space hq (hw c (by simp)))

theorem findSome?_congr {α β : Type} {f g : α → Option β} {l : List α} (h : ∀ a ∈ l, f a = g a) :
    l.findSome? f = l.findSome? g := by
  induction l with
  | nil => rfl
  | cons a l ih =>
    rw [List.forall_mem_cons] at h
    rw [List.findSome?_cons, List.findSome?_cons, h.1, ih h.2]

theorem readWord_append (hq : ∀ c ∈ q, isSpace c) (x : Text) :
    readWord (x ++ q) = (readWord x).map fun (v, y) => (v, y ++ q) := by
  have hwords : ∀ p ∈ words, ∀ c ∈ p.1, isSpace c = false := by decide
  rw [readWord, readWord, List.map_findSome?]
  refine findSome?_congr fun p hp => ?_
  have hiff := prefix_append_space (x := x) hq (hwords p hp)
  simp only [Function.comp, List.isPrefixOf_iff_prefix, hiff]
  split
  · simp [List.drop_append_of_le_length ‹p.1 <+: x›.length_le]
  · rfl

section Numbers

/-! A number ends before whatever does not go on with it, so each of its parts is the same with and
without that behind it. -/

theorem endsNumber_of_space (hq : ∀ c ∈ q, isSpace c) : EndsNumber q := by
  intro c hc
  rcases isSpace_iff.1 (hq c (List.mem_of_head? hc)) with rfl | rfl | rfl | rfl <;> rfl

theorem head?_append_iff (h : q.head? ≠ some c) : (x ++ q).head? = some c ↔ x.head? = some c := by
  cases x with
  | nil => exact ⟨fun hq => absurd hq h, nofun⟩
  | cons d x => rfl

theorem EndsNumber.head?_ne (hq : EndsNumber q) (hc : inNumber c) : q.head? ≠ some c := by
  intro hhead
  cases hc.symm.trans (hq c hhead)

theorem takeWhile_append_end (hq : EndsNumber q) (x : Text) :
    (x ++ q).takeWhile CodePoint.isDigit = x.takeWhile CodePoint.isDigit := by
  induction x with
  | nil =>
    cases q with
    | nil => rfl
    | cons c q => simp [(not_inNumber (hq c rfl)).1]
  | cons c x ih => simp [List.takeWhile_cons, ih]

theorem dropWhile_append_end (hq : EndsNumber q) (x : Text) :
    (x ++ q).dropWhile CodePoint.isDigit = x.dropWhile CodePoint.isDigit ++ q := by
  induction x with
  | nil =>
    cases q with
    | nil => rfl
    | cons c q => simp [(not_inNumber (hq c rfl)).1]
  | cons c x ih =>
    by_cases hc : c.isDigit <;> simp [hc, ih]

theorem behindSign_append (hq : EndsNumber q) (x : Text) : behindSign (x ++ q) = behindSign x ++ q := by
  have hhead := head?_append_iff (x := x) (hq.head?_ne (c := '-') (by decide))
  simp only [behindSign, beq_iff_eq, hhead]
  split
  · rename_i h
    obtain ⟨y, rfl⟩ := List.head?_eq_some_iff.1 h
    rfl
  · rfl

theorem wholePart_append (hq : EndsNumber q) (x : Text) : wholePart (x ++ q) = wholePart x := by
  have hhead := head?_append_iff (x := x) (hq.head?_ne (c := '0') (by decide))
  simp only [wholePart_eq, hhead, takeWhile_append_end hq]

theorem behindWhole_append (hq : EndsNumber q) (x : Text) : behindWhole (x ++ q) = behindWhole x ++ q := by
  rw [behindWhole, wholePart_append hq, List.drop_append_of_le_length (prefix_wholePart x).length_le]
  rfl

theorem fractionPart_append (hq : EndsNumber q) (x : Text) : fractionPart (x ++ q) = fractionPart x := by
  cases x with
  | nil =>
    cases q with
    | nil => rfl
    | cons c q => simp [fractionPart, (not_inNumber (hq c rfl)).2.1]
  | cons c x => simp only [List.cons_append, fractionPart, takeWhile_append_end hq]

theorem length_fractionPart_lt (h : fractionPart x ≠ []) : (fractionPart x).length < x.length := by
  cases x with
  | nil => exact absurd rfl h
  | cons c x =>
    simp only [fractionPart]
    split
    · exact Nat.lt_succ_of_le (List.takeWhile_prefix _).length_le
    · simp

theorem behindFraction_append (hq : EndsNumber q) (x : Text) :
    behindFraction (x ++ q) = behindFraction x ++ q := by
  simp only [behindFraction, fractionPart_append hq, List.isEmpty_iff]
  split
  · rfl
  · rw [List.drop_append_of_le_length (length_fractionPart_lt ‹_›)]

theorem signed_append (hq : EndsNumber q) (x : Text) :
    Numeral.signed (x ++ q) = ((Numeral.signed x).1, (Numeral.signed x).2 ++ q) := by
  cases x with
  | nil =>
    cases q with
    | nil => rfl
    | cons c q =>
      obtain ⟨-, -, -, -, hplus, hminus⟩ := not_inNumber (hq c rfl)
      simp [Numeral.signed, hminus, hplus]
  | cons c x =>
    simp only [List.cons_append, Numeral.signed]
    split
    · rfl
    · split <;> rfl

theorem exponentPart_append (hq : EndsNumber q) (x : Text) :
    exponentPart (x ++ q) = (exponentPart x).map fun (power, y) => (power, y ++ q) := by
  cases x with
  | nil =>
    cases q with
    | nil => rfl
    | cons c q =>
      obtain ⟨-, -, hsmall, hlarge, -⟩ := not_inNumber (hq c rfl)
      simp [exponentPart, hsmall, hlarge]
  | cons c x =>
    simp only [List.cons_append, exponentPart, signed_append hq, takeWhile_append_end hq,
      dropWhile_append_end hq]
    split
    · split <;> rfl
    · rfl

theorem behindExponent_append (hq : EndsNumber q) (x : Text) :
    behindExponent (x ++ q) = behindExponent x ++ q := by
  rw [behindExponent, exponentPart_append hq, behindExponent]
  cases exponentPart x <;> rfl

/-- A number is read as if nothing stood behind it, and what stands there is left. -/
theorem readNumber_append_ok (hq : EndsNumber q) {n : Number} :
    readNumber (x ++ q) = .ok (n, rest) ↔ ∃ y, rest = y ++ q ∧ readNumber x = .ok (n, y) := by
  have hsign : ((x ++ q).head? == some (.ofChar '-')) = (x.head? == some (.ofChar '-')) := by
    rw [Bool.eq_iff_iff, beq_iff_eq, beq_iff_eq, head?_append_iff (hq.head?_ne (by decide))]
  have hpower (y : Text) : (exponentPart (y ++ q)).map Prod.fst = (exponentPart y).map Prod.fst := by
    rw [exponentPart_append hq, Option.map_map]
    rfl
  rw [readNumber_ok, hsign, behindSign_append hq, wholePart_append hq, behindWhole_append hq,
    fractionPart_append hq, behindFraction_append hq, hpower, behindExponent_append hq]
  constructor
  · rintro ⟨hwhole, hparts, rfl⟩
    exact ⟨_, rfl, readNumber_ok.2 ⟨hwhole, hparts, rfl⟩⟩
  · rintro ⟨y, rfl, h⟩
    obtain ⟨hwhole, hparts, rfl⟩ := readNumber_ok.1 h
    exact ⟨hwhole, hparts, rfl⟩

end Numbers

theorem ignoresTrailing_readLeaf (hq : ∀ c ∈ q, isSpace c) : IgnoresTrailing q readLeaf := by
  intro x v rest h
  rcases readLeaf_ok.1 h with hword | ⟨hword, htext | hnumber⟩
  · rw [readWord_append hq, Option.map_eq_some_iff] at hword
    obtain ⟨⟨_, y⟩, hword, heq⟩ := hword
    obtain ⟨rfl, rfl⟩ := Prod.mk.inj heq
    exact ⟨y, rfl, readLeaf_ok.2 (.inl hword)⟩
  · obtain ⟨t, text, ht, htext, rfl⟩ := htext
    rw [readWord_append hq, Option.map_eq_none_iff] at hword
    obtain ⟨x', rfl, rfl⟩ := eq_append_of_cons hq (by decide) ht
    obtain ⟨y, rfl, hy⟩ := ignoresTrailing_readText hq _ htext
    exact ⟨y, rfl, readLeaf_ok.2 (.inr ⟨hword, .inl ⟨x', text, rfl, hy, rfl⟩⟩)⟩
  · obtain ⟨⟨c, t, ht, hc⟩, n, hn, rfl⟩ := hnumber
    rw [readWord_append hq, Option.map_eq_none_iff] at hword
    obtain ⟨y, rfl, hy⟩ := (readNumber_append_ok (endsNumber_of_space hq)).1 hn
    cases x with
    | nil => exact absurd (takesLevel_readNumber hy).2 (Nat.not_lt_zero _)
    | cons d x =>
      obtain ⟨rfl, -⟩ := List.cons.inj ht
      exact ⟨y, rfl, readLeaf_ok.2 (.inr ⟨hword, .inr ⟨⟨d, x, rfl, hc⟩, n, hy, rfl⟩⟩)⟩

/-! ### Arrays and objects -/

section Levels

variable {part : Reader α} {item : Reader Json} {close : CodePoint} {flaw : Flaw} {bound : Nat}

theorem readSeparated_nil_ne_ok (hclose : close ≠ ',') (htakes : TakesLevel part) {parts : List α} :
    readSeparated part close flaw bound [] ≠ .ok (parts, rest) := by
  cases bound with
  | zero => exact flawAt_ne_ok
  | succ bound =>
    intro h
    obtain ⟨first, t₁, hfirst, -⟩ := (readSeparated_ok hclose).1 h
    exact absurd (htakes hfirst).2 (Nat.not_lt_zero _)

/-- A bound that suffices for the text without the space suffices, whatever the one with it was. -/
theorem readSeparated_append (hq : ∀ c ∈ q, isSpace c) (hclose : close ≠ ',') (htakes : TakesLevel part)
    (hpart : IgnoresTrailing q part) {parts : List α} {bound' : Nat} (hbound : x.length ≤ bound')
    (h : readSeparated part close flaw bound (x ++ q) = .ok (parts, rest)) :
    ∃ y, rest = y ++ q ∧ readSeparated part close flaw bound' x = .ok (parts, y) := by
  induction bound generalizing x parts bound' with
  | zero => exact absurd h flawAt_ne_ok
  | succ bound ih =>
    obtain ⟨first, t₁, hfirst, hend⟩ := (readSeparated_ok hclose).1 h
    obtain ⟨y₁, rfl, hy₁⟩ := hpart hfirst
    have hlt := (htakes hy₁).2
    obtain ⟨bound', rfl⟩ : ∃ n, bound' = n + 1 := ⟨bound' - 1, by omega⟩
    rcases hend with ⟨hclosed, rfl⟩ | ⟨t₂, others, hcomma, hothers, rfl⟩
    · obtain ⟨y, hy, rfl⟩ := skipSpace_append_eq_cons hq hclosed
      exact ⟨y, rfl, (readSeparated_ok hclose).2 ⟨first, y₁, hy₁, .inl ⟨hy, rfl⟩⟩⟩
    · obtain ⟨y₂, hy₂, rfl⟩ := skipSpace_append_eq_cons hq hcomma
      have hle : (skipSpace y₂).length ≤ bound' := by
        have h₁ := (leaves_skipSpace y₁).length_le
        have h₂ := (leaves_skipSpace y₂).length_le
        rw [hy₂, List.length_cons] at h₁
        omega
      rcases skipSpace_append hq y₂ with ⟨-, hnil⟩ | happend
      · rw [hnil] at hothers
        exact absurd hothers (readSeparated_nil_ne_ok hclose htakes)
      · rw [happend] at hothers
        obtain ⟨y, rfl, hy⟩ := ih hle hothers
        exact ⟨y, rfl, (readSeparated_ok hclose).2
          ⟨first, y₁, hy₁, .inr ⟨y₂, others, hy₂, hy, rfl⟩⟩⟩

theorem ignoresTrailing_readMember (hq : ∀ c ∈ q, isSpace c) (htakes : TakesLevel item)
    (hitem : IgnoresTrailing q item) : IgnoresTrailing q (readMember item) := by
  intro x member rest h
  obtain ⟨t₁, t₂, t₃, hquote, hkey, hcolon, hvalue⟩ := readMember_ok.1 h
  obtain ⟨x₁, rfl, rfl⟩ := eq_append_of_cons hq (by decide) hquote
  obtain ⟨y₂, rfl, hy₂⟩ := ignoresTrailing_readText hq _ hkey
  obtain ⟨y₃, hy₃, rfl⟩ := skipSpace_append_eq_cons hq hcolon
  obtain ⟨y, rfl, hy⟩ := hitem.skipSpace hq htakes hvalue
  exact ⟨y, rfl, readMember_ok.2 ⟨x₁, y₂, y₃, rfl, hy₂, hy₃, hy⟩⟩

theorem ignoresTrailing_readArray (hq : ∀ c ∈ q, isSpace c) (htakes : TakesLevel item)
    (hitem : IgnoresTrailing q item) : IgnoresTrailing q (readArray item) := by
  intro x v rest h
  rcases readArray_ok.1 h with ⟨hclosed, rfl⟩ | ⟨c, t₁, items, hopen, hc, hitems, rfl⟩
  · obtain ⟨y, hy, rfl⟩ := skipSpace_append_eq_cons hq hclosed
    exact ⟨y, rfl, readArray_ok.2 (.inl ⟨hy, rfl⟩)⟩
  · obtain ⟨y₁, hy₁, rfl⟩ := skipSpace_append_eq_cons hq hopen
    obtain ⟨y, rfl, hy⟩ := readSeparated_append hq (by decide) htakes hitem (Nat.le_refl (c :: y₁).length) hitems
    exact ⟨y, rfl, readArray_ok.2 (.inr ⟨c, y₁, items, hy₁, hc, hy, rfl⟩)⟩

theorem ignoresTrailing_readObject (hq : ∀ c ∈ q, isSpace c) (htakes : TakesLevel item)
    (hitem : IgnoresTrailing q item) : IgnoresTrailing q (readObject item) := by
  intro x v rest h
  rcases readObject_ok.1 h with ⟨hclosed, rfl⟩ | ⟨c, t₁, members, hopen, hc, hmembers, rfl⟩
  · obtain ⟨y, hy, rfl⟩ := skipSpace_append_eq_cons hq hclosed
    exact ⟨y, rfl, readObject_ok.2 (.inl ⟨hy, rfl⟩)⟩
  · obtain ⟨y₁, hy₁, rfl⟩ := skipSpace_append_eq_cons hq hopen
    obtain ⟨y, rfl, hy⟩ := readSeparated_append hq (by decide) (takesLevel_readMember htakes)
      (ignoresTrailing_readMember hq htakes hitem) (Nat.le_refl (c :: y₁).length)
      hmembers
    exact ⟨y, rfl, readObject_ok.2 (.inr ⟨c, y₁, members, hy₁, hc, hy, rfl⟩)⟩

/-- A leaf opens no level with space behind it if it opens none without. -/
theorem readLeaf_append (hq : ∀ c ∈ q, isSpace c) {v : Json} (hopens : ¬OpensLevel (x ++ q))
    (h : readLeaf (x ++ q) = .ok (v, rest)) :
    ∃ y, rest = y ++ q ∧ ¬OpensLevel x ∧ readLeaf x = .ok (v, y) := by
  obtain ⟨y, rfl, hy⟩ := ignoresTrailing_readLeaf hq h
  refine ⟨y, rfl, fun hx => hopens ?_, hy⟩
  rcases hx with hx | hx
  all_goals
    obtain ⟨x, rfl⟩ := List.head?_eq_some_iff.1 hx
  · exact .inl rfl
  · exact .inr rfl

theorem ignoresTrailing_readValue (hq : ∀ c ∈ q, isSpace c) (depth : Nat) :
    IgnoresTrailing q (readValue depth) := by
  induction depth with
  | zero =>
    intro x v rest h
    obtain ⟨hopens, hleaf⟩ := readValue_zero_ok.1 h
    obtain ⟨y, rfl, hy⟩ := readLeaf_append hq hopens hleaf
    exact ⟨y, rfl, readValue_zero_ok.2 hy⟩
  | succ depth ih =>
    intro x v rest h
    have htakes := takesLevel_readValue depth
    rcases readValue_succ_ok.1 h with ⟨t₁, ht, harray⟩ | ⟨t₁, ht, hobject⟩ | ⟨hopens, hleaf⟩
    · obtain ⟨x₁, rfl, rfl⟩ := eq_append_of_cons hq (by decide) ht
      obtain ⟨y, rfl, hy⟩ := ignoresTrailing_readArray hq htakes ih harray
      exact ⟨y, rfl, readValue_succ_ok.2 (.inl ⟨x₁, rfl, hy⟩)⟩
    · obtain ⟨x₁, rfl, rfl⟩ := eq_append_of_cons hq (by decide) ht
      obtain ⟨y, rfl, hy⟩ := ignoresTrailing_readObject hq htakes ih hobject
      exact ⟨y, rfl, readValue_succ_ok.2 (.inr (.inl ⟨x₁, rfl, hy⟩))⟩
    · obtain ⟨y, rfl, hy⟩ := readLeaf_append hq hopens hleaf
      exact ⟨y, rfl, readValue_succ_ok.2 (.inr (.inr hy))⟩

end Levels

end Automation.Json
