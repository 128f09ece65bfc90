/-!
# Texts

A text is a sequence of code points. Most code points are characters, but an escape in a document
can name one half of a surrogate pair without the other, and such a half is none. It is carried
along and compared like any other code point; only what leaves as a string has to do without.

Strings are read as texts wherever a text is asked for. `Text.toString?` goes the other way, and
gives nothing exactly if there is a half of a pair.
-/

namespace Automation

/-- A code point: a character or one half of a surrogate pair. -/
structure CodePoint where
  /-- Its number. -/
  value : Nat
  /-- Numbers end where code points end. -/
  isLt : value < 0x110000
  deriving DecidableEq, Repr

namespace CodePoint

theorem char_isLt (c : Char) : c.toNat < 0x110000 := by
  rcases c.valid with h | h
  · exact Nat.lt_trans h (by decide)
  · exact h.2

/-- A character as a code point. -/
def ofChar (c : Char) : CodePoint := ⟨c.toNat, char_isLt c⟩

instance : Coe Char CodePoint := ⟨ofChar⟩

/-- What stands for something that is no code point. -/
def replacement : CodePoint := '\ufffd'

instance : Inhabited CodePoint := ⟨replacement⟩

/-- The code point with a number. -/
def ofNat (n : Nat) : CodePoint :=
  if h : n < 0x110000 then ⟨n, h⟩ else replacement

theorem ofNat_value (c : CodePoint) : ofNat c.value = c := by
  rw [ofNat, dif_pos c.isLt]

instance : LT CodePoint := ⟨fun a b => a.value < b.value⟩

instance (a b : CodePoint) : Decidable (a < b) :=
  inferInstanceAs (Decidable (a.value < b.value))

/-- Whether a code point lies between two others, or is one of them. -/
def isBetween (c first last : CodePoint) : Bool :=
  decide (first.value ≤ c.value) && decide (c.value ≤ last.value)

/-- Whether a code point is the first half of a surrogate pair. -/
def isHighHalf (c : CodePoint) : Bool :=
  decide (0xd800 ≤ c.value) && decide (c.value ≤ 0xdbff)

/-- Whether a code point is the second half of a surrogate pair. -/
def isLowHalf (c : CodePoint) : Bool :=
  decide (0xdc00 ≤ c.value) && decide (c.value ≤ 0xdfff)

/-- Whether a code point is one half of a surrogate pair. -/
def isHalf (c : CodePoint) : Bool :=
  c.isHighHalf || c.isLowHalf

/-- The code point that the two halves of a surrogate pair stand for. -/
def joinHalves (high low : CodePoint) : CodePoint :=
  ofNat (0x10000 + (high.value - 0xd800) * 0x400 + (low.value - 0xdc00))

/-- The character that a code point is, if it is one. -/
def toChar? (c : CodePoint) : Option Char :=
  if c.isHalf then none else some (Char.ofNat c.value)

@[simp] theorem isHalf_ofChar (c : Char) : (ofChar c).isHalf = false := by
  have h : c.toNat < 0xd800 ∨ 0xdfff < c.toNat ∧ c.toNat < 0x110000 := c.valid
  have high : ¬(0xd800 ≤ (ofChar c).value ∧ (ofChar c).value ≤ 0xdbff) := by
    change ¬(0xd800 ≤ c.toNat ∧ c.toNat ≤ 0xdbff)
    omega
  have low : ¬(0xdc00 ≤ (ofChar c).value ∧ (ofChar c).value ≤ 0xdfff) := by
    change ¬(0xdc00 ≤ c.toNat ∧ c.toNat ≤ 0xdfff)
    omega
  simp [isHalf, isHighHalf, isLowHalf, ← Bool.decide_and, high, low]

@[simp] theorem toChar?_ofChar (c : Char) : (ofChar c).toChar? = some c := by
  rw [toChar?, isHalf_ofChar]
  simp [ofChar]

@[simp] theorem ofChar_inj {c d : Char} : ofChar c = ofChar d ↔ c = d := by
  refine ⟨fun h => ?_, fun h => h ▸ rfl⟩
  rw [← Option.some_inj, ← toChar?_ofChar, h, toChar?_ofChar]

/-- Whether a code point is one of the digits 0 to 9. -/
def isDigit (c : CodePoint) : Bool :=
  c.isBetween '0' '9'

/-- Whether a code point is one of the letters a to z. -/
def isLower (c : CodePoint) : Bool :=
  c.isBetween 'a' 'z'

/-- A code point with a letter from A to Z replaced by the one from a to z. -/
def toLower (c : CodePoint) : CodePoint :=
  if c.isBetween 'A' 'Z' then ofNat (c.value + 0x20) else c

end CodePoint

/-- A sequence of code points. -/
abbrev Text := List CodePoint

namespace Text

/-- A string as a text. -/
def ofString (s : String) : Text :=
  s.toList.map .ofChar

instance : Coe String Text := ⟨ofString⟩

/-- Whether a text is a string: it holds no half of a surrogate pair. -/
def isString (t : Text) : Bool :=
  t.all fun c => !c.isHalf

/-- The string that a text is, if it is one. -/
def toString? (t : Text) : Option String :=
  (t.mapM CodePoint.toChar?).map String.ofList

/-- Texts one after another, with a separator between neighbours. -/
def join (separator : Text) (texts : List Text) : Text :=
  List.intercalate separator texts

theorem join_cons_cons (separator x y : Text) (more : List Text) :
    join separator (x :: y :: more) = x ++ (separator ++ join separator (y :: more)) := by
  rw [join, List.intercalate_cons_cons, List.append_assoc]
  rfl

/-- The part of a text before the first place of a code point; the whole text if it has none. -/
def before (mark : CodePoint) (t : Text) : Text :=
  t.takeWhile fun c => c != mark

/-- The part of a text behind the first place of a code point; nothing if it has none. -/
def behind (mark : CodePoint) (t : Text) : Text :=
  (t.dropWhile fun c => c != mark).drop 1

/-- A text without given code points. -/
def without (mark : CodePoint) (t : Text) : Text :=
  t.filter fun c => c != mark

/-- A text with each letter from A to Z replaced by the one from a to z. -/
def toLower (t : Text) : Text :=
  t.map CodePoint.toLower

@[simp] theorem isString_ofString (s : String) : (ofString s).isString = true := by
  simp [isString, ofString]

@[simp] theorem toString?_ofString (s : String) : (ofString s).toString? = some s := by
  have h : ∀ cs : List Char, (cs.map CodePoint.ofChar).mapM CodePoint.toChar? = some cs := by
    intro cs
    induction cs with
    | nil => rfl
    | cons c rest ih => simp [List.mapM_cons, ih]
  simp [toString?, ofString, h]

theorem eq_nil_of_toString? {t : Text} (h : t.toString? = some "") : t = [] := by
  cases t with
  | nil => rfl
  | cons c rest =>
    obtain ⟨chars, hchars, hempty⟩ := Option.map_eq_some_iff.1 h
    obtain rfl : chars = [] := by simpa using congrArg String.toList hempty
    simp [List.mapM_cons, Option.bind_eq_some_iff] at hchars

theorem ofString_inj {s t : String} : ofString s = ofString t ↔ s = t := by
  refine ⟨fun h => ?_, fun h => h ▸ rfl⟩
  rw [← Option.some_inj, ← toString?_ofString, h, toString?_ofString]

@[simp] theorem length_ofString (s : String) : (ofString s).length = s.length := by
  rw [ofString, List.length_map, String.length_toList]

end Text

end Automation
