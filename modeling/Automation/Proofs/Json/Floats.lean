import Automation.Proofs.Json.ReadBack

/-!
# Floating-point numbers in documents

Whether a floating-point number is read back from its text as a document of its own (`FloatReadsBack`)
is a matter of the digits it is written with. If it is, it is read back wherever it stands
(`readsBack_float`): its text holds nothing but what a number may hold (`inNumber_of_mem_writeFloat`),
so the whole of it is what is read.
-/

namespace Automation.Json

variable {style : Style} {depth : Nat} {t rest : Text} {x : Binary64}

/-- A floating-point number that is read back from the document that consists of it, which has no levels. -/
def FloatReadsBack (x : Binary64) : Prop :=
  readWithin 0 (write .plain (float x)) = .ok (float x)

/-! ### What the text of a finite number holds -/

/-- A character that the text of a finite number may hold. -/
def isNumeral (c : Char) : Bool :=
  c.isDigit || c == '.' || c == 'e' || c == '+' || c == '-'

theorem isNumeral_of_isDigit {c : Char} (h : c.isDigit) : isNumeral c := by
  simp [isNumeral, h]

theorem isNumeral_of_mem_toDigits {n : Nat} {c : Char} (h : c ∈ Nat.toDigits 10 n) : isNumeral c :=
  isNumeral_of_isDigit (Nat.isDigit_of_mem_toDigits (by decide) (by decide) h)

theorem inNumber_ofChar {c : Char} (h : isNumeral c) : inNumber (.ofChar c) := by
  simp only [isNumeral, Bool.or_eq_true, beq_iff_eq, or_assoc] at h
  rcases h with h | rfl | rfl | rfl | rfl
  · simp [inNumber, isDigit_ofChar h]
  all_goals decide

theorem isNumeral_of_mem_replicate {k : Nat} {c : Char} (h : c ∈ List.replicate k '0') : isNumeral c :=
  List.eq_of_mem_replicate h ▸ rfl

theorem isNumeral_of_mem_shortest {m : Nat} {e : Int} {c : Char} (h : c ∈ (Binary64.shortest m e).1) :
    isNumeral c := by
  have hdigits := (List.dropWhile_suffix _).subset (List.mem_reverse.1 h)
  exact isNumeral_of_mem_toDigits (List.mem_reverse.1 hdigits)

theorem isNumeral_of_mem_positional {digits : List Char} (hdigits : ∀ c ∈ digits, isNumeral c) {p : Int}
    {c : Char} (h : c ∈ Binary64.positional digits p) : isNumeral c := by
  unfold Binary64.positional at h
  split at h
  · simp only [List.mem_append, List.mem_cons, List.not_mem_nil, or_false] at h
    rcases h with ((rfl | rfl) | hc) | hc
    · rfl
    · rfl
    · exact isNumeral_of_mem_replicate hc
    · exact hdigits c hc
  · simp only [List.mem_append, List.mem_cons] at h
    rcases h with (hc | hc) | rfl | hc
    · exact hdigits c (List.mem_of_mem_take hc)
    · exact isNumeral_of_mem_replicate hc
    · rfl
    · split at hc
      · exact List.mem_singleton.1 hc ▸ rfl
      · exact hdigits c (List.mem_of_mem_drop hc)

theorem isNumeral_of_mem_scientific {spelling : Binary64.FloatSpelling} {digits : List Char}
    (hdigits : ∀ c ∈ digits, isNumeral c) {k : Int} {c : Char} (h : c ∈ Binary64.scientific spelling digits k) :
    isNumeral c := by
  simp only [Binary64.scientific, List.mem_append, List.mem_cons, List.not_mem_nil, or_false] at h
  rcases h with (((hc | hc) | rfl | rfl) | hc) | hc
  · exact hdigits c (List.mem_of_mem_take hc)
  · split at hc
    · cases hc
    · rcases List.mem_cons.1 hc with rfl | hc
      · rfl
      · exact hdigits c (List.mem_of_mem_drop hc)
  · rfl
  · split <;> rfl
  · exact isNumeral_of_mem_replicate hc
  · exact isNumeral_of_mem_toDigits hc

theorem isNumeral_of_mem_spellFinite {spelling : Binary64.FloatSpelling} {negative : Bool} {m : Nat} {e : Int}
    {c : Char} (h : c ∈ Binary64.spellFinite spelling negative m e) : isNumeral c := by
  have hbody : ∀ body : List Char, (∀ c ∈ body, isNumeral c) →
      c ∈ (if negative then '-' :: body else body) → isNumeral c := by
    intro body hall hc
    split at hc
    · exact (List.mem_cons.1 hc).elim (· ▸ rfl) (hall c)
    · exact hall c hc
  refine hbody _ ?_ h
  split
  · simp only [List.forall_mem_cons]
    exact ⟨rfl, rfl, rfl, nofun⟩
  split
  rename_i digits p hshortest
  have hdigits : ∀ c ∈ digits, isNumeral c := fun c hc =>
    isNumeral_of_mem_shortest (m := m) (e := e) (hshortest ▸ hc)
  split
  · exact fun _ => isNumeral_of_mem_positional hdigits
  · exact fun _ => isNumeral_of_mem_scientific hdigits

theorem inNumber_of_mem_writeFloat {negative : Bool} {m : Nat} {e : Int} {c : CodePoint}
    (h : c ∈ Text.ofString (writeFloat style (.finite negative m e))) : inNumber c := by
  rw [Text.ofString, writeFloat, String.toList_ofList] at h
  obtain ⟨d, hd, rfl⟩ := List.mem_map.1 h
  exact inNumber_ofChar (isNumeral_of_mem_spellFinite hd)

/-! ### Reading back -/

theorem not_isSpace_of_inNumber {c : CodePoint} (h : inNumber c) : isSpace c = false := by
  by_contra hspace
  rcases isSpace_iff.1 (Bool.not_eq_false _ ▸ hspace) with rfl | rfl | rfl | rfl <;> cases h

/-- In a text without space nothing is skipped. -/
theorem skipSpace_of_inNumber (h : ∀ c ∈ t, inNumber c) : skipSpace t = t := by
  cases t with
  | nil => rfl
  | cons c t => exact skipSpace_of_not_isSpace (not_isSpace_of_inNumber (h c List.mem_cons_self))

/-- A text of which a number is all that is read is read as the number. -/
theorem readNumber_of_read {n : Number} (ht : ∀ c ∈ t, inNumber c) (h : readWithin 0 t = .ok (number n)) :
    readNumber t = .ok (n, []) := by
  obtain ⟨-, rest, hvalue, hrest⟩ := readWithin_ok.1 h
  rw [skipSpace_of_inNumber ht] at hvalue
  have hwords : ∀ p ∈ words, ∃ c ∈ p.1, inNumber c = false := by decide
  rcases readLeaf_ok.1 (readValue_zero_ok.1 hvalue).2 with hword | ⟨-, ⟨_, _, -, -, hv⟩ | ⟨-, k, hnumber, hv⟩⟩
  · obtain ⟨w, hw, heq⟩ := mem_words_of_readWord hword
    obtain ⟨c, hc, hnot⟩ := hwords _ hw
    exact absurd (ht c (heq ▸ List.mem_append_left rest hc)) (by simp [hnot])
  · cases hv
  · obtain rfl := number.inj hv
    obtain ⟨piece, -, heq⟩ := (takesLevel_readNumber hnumber).1
    rw [skipSpace_of_inNumber fun c hc => ht c (heq ▸ List.mem_append_right piece hc)] at hrest
    exact hrest ▸ hnumber

/-- A style that writes floating-point numbers as documents of their own are written. -/
def Style.PlainFloats (style : Style) : Prop :=
  style.floats = plainFloats ∧ style.namesSpecials

theorem writeAt_float (hstyle : style.PlainFloats) (level : Nat) (x : Binary64) :
    writeAt style level (float x) = writeFloat .plain x := by
  cases x <;> simp [writeAt, float, writeFloat, hstyle.1, hstyle.2, Style.plain]

/-- A floating-point number is read back wherever it stands. -/
theorem readsBack_float (hstyle : style.PlainFloats) (hx : FloatReadsBack x) :
    ReadsBack style depth (float x) := by
  cases x with
  | finite negative m e =>
    refine readsBack_number fun level => ?_
    rw [← float, writeAt_float hstyle]
    exact readNumber_of_read (fun _ => inNumber_of_mem_writeFloat) hx
  | nan =>
    intro level rest _
    rw [writeAt_float hstyle]
    exact readValue_of_readLeaf (by simp [OpensLevel, writeFloat, Text.ofString, Style.plain])
      (readLeaf_ok.2 (.inl rfl)) depth
  | infinite negative =>
    intro level rest _
    rw [writeAt_float hstyle]
    cases negative
    all_goals
      exact readValue_of_readLeaf (by simp [OpensLevel, writeFloat, Text.ofString, Style.plain])
        (readLeaf_ok.2 (.inl rfl)) depth

end Automation.Json
