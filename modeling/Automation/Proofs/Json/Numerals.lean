import Automation.Proofs.Json.Parts
import Mathlib.Data.List.TakeWhile

/-!
# The parts of a number

A number in a document is a sign, a whole part, a fraction and an exponent, each but the whole part
perhaps absent. `readNumber_eq` says what is made of them (`ofParts`) and what is left behind them.
A number of digits only is beyond a limit if there are too many (`readNumber_digits`).
-/

namespace Automation.Json

/-- What stands behind the sign of a number. -/
def behindSign (t : Text) : Text :=
  if t.head? == some (.ofChar '-') then t.drop 1 else t

/-- What stands behind the whole part a text begins with. -/
def behindWhole (t : Text) : Text :=
  t.drop (wholePart t).length

/-- What stands behind the fraction a text begins with. -/
def behindFraction (t : Text) : Text :=
  if (fractionPart t).isEmpty then t else t.drop ((fractionPart t).length + 1)

/-- What stands behind the exponent a text begins with. -/
def behindExponent (t : Text) : Text :=
  match exponentPart t with
  | some (_, rest) => rest
  | none => t

/-- The number that a sign, a whole part, a fraction and an exponent are. -/
def ofParts (negative : Bool) (whole fraction : Text) : Option Int → Except Fault Number
  | some power =>
    .ok (.float (.ofDecimal negative (Numeral.run (whole ++ fraction)) (power - fraction.length)))
  | none =>
    if !fraction.isEmpty then
      .ok (.float (.ofDecimal negative (Numeral.run (whole ++ fraction)) (-(fraction.length : Int))))
    else if Numeral.digitLimit < whole.length then .error (.beyond (.digits whole.length))
    else .ok (.int (Numeral.withSign negative (Numeral.run whole)))

variable {c : CodePoint} {t rest : Text} {n : Number}

/-- Whether a number may hold a code point. -/
def inNumber (c : CodePoint) : Bool :=
  c.isDigit || c == '.' || c == 'e' || c == 'E' || c == '+' || c == '-'

/-- A text that does not go on with a number that stands before it. -/
def EndsNumber (t : Text) : Prop :=
  ∀ c ∈ t.head?, inNumber c = false

theorem endsNumber_nil : EndsNumber [] :=
  nofun

theorem endsNumber_cons (h : inNumber c = false) : EndsNumber (c :: rest) := by
  intro d hd
  obtain rfl : c = d := Option.some.inj hd
  exact h

theorem not_inNumber (h : inNumber c = false) :
    c.isDigit = false ∧ c ≠ '.' ∧ c ≠ 'e' ∧ c ≠ 'E' ∧ c ≠ '+' ∧ c ≠ '-' := by
  simpa only [inNumber, Bool.or_eq_false_iff, beq_eq_false_iff_ne, ne_eq, and_assoc] using h

theorem wholePart_eq (t : Text) :
    wholePart t = if t.head? = some (.ofChar '0') then [.ofChar '0'] else t.takeWhile CodePoint.isDigit :=
  rfl

theorem readNumber_eq (t : Text) :
    readNumber t =
      if (wholePart (behindSign t)).isEmpty then flawAt .noValue t
      else
        (ofParts (t.head? == some (.ofChar '-')) (wholePart (behindSign t))
            (fractionPart (behindWhole (behindSign t)))
            ((exponentPart (behindFraction (behindWhole (behindSign t)))).map Prod.fst)).map
          fun n => (n, behindExponent (behindFraction (behindWhole (behindSign t)))) := by
  change (
    let negative := t.head? == some (.ofChar '-')
    let whole := wholePart (behindSign t)
    let fraction := fractionPart (behindWhole (behindSign t))
    let rest := behindFraction (behindWhole (behindSign t))
    if whole.isEmpty then flawAt .noValue t
    else match exponentPart rest with
      | some (power, rest) =>
        .ok (Number.float (.ofDecimal negative (Numeral.run (whole ++ fraction)) (power - fraction.length)), rest)
      | none =>
        if !fraction.isEmpty then
          .ok (Number.float (.ofDecimal negative (Numeral.run (whole ++ fraction)) (-(fraction.length : Int))), rest)
        else if Numeral.digitLimit < whole.length then .error (.beyond (.digits whole.length))
        else .ok (Number.int (Numeral.withSign negative (Numeral.run whole)), rest)) = _
  cases hexp : exponentPart (behindFraction (behindWhole (behindSign t))) with
  | some found => simp only [ofParts, behindExponent, hexp, Option.map_some, Except.map]
  | none =>
    simp only [ofParts, behindExponent, hexp, Option.map_none]
    -- The same three conditions decide on both sides.
    split
    · rfl
    split
    · rfl
    split <;> rfl

/-- A number has a whole part, and its parts are within the limits. -/
theorem readNumber_ok : readNumber t = .ok (n, rest) ↔
    wholePart (behindSign t) ≠ [] ∧
      ofParts (t.head? == some (.ofChar '-')) (wholePart (behindSign t))
        (fractionPart (behindWhole (behindSign t)))
        ((exponentPart (behindFraction (behindWhole (behindSign t)))).map Prod.fst) = .ok n ∧
      behindExponent (behindFraction (behindWhole (behindSign t))) = rest := by
  rw [readNumber_eq]
  by_cases h : wholePart (behindSign t) = []
  · simp [h, flawAt_ne_ok]
  · simp only [List.isEmpty_iff, h, if_false, map_eq_ok, Prod.mk.injEq]
    exact ⟨fun ⟨_, hn, heq, hrest⟩ => ⟨h, heq ▸ hn, hrest⟩, fun ⟨_, hn, hrest⟩ => ⟨n, hn, rfl, hrest⟩⟩

/-- Digits alone are an integer, which is beyond the limit if there are too many of them. -/
theorem readNumber_digits (hdigits : ∀ d ∈ c :: t, d.isDigit) (hzero : c ≠ '0')
    (hlimit : Numeral.digitLimit < (c :: t).length) :
    readNumber (c :: t) = .error (.beyond (.digits (c :: t).length)) := by
  have hminus : c ≠ '-' := by
    rintro rfl
    exact absurd (hdigits _ List.mem_cons_self) (by decide)
  have hsign : behindSign (c :: t) = c :: t := by simp [behindSign, hminus]
  have hwhole : wholePart (c :: t) = c :: t := by
    rw [wholePart_eq, if_neg (by simpa using hzero), List.takeWhile_eq_self_iff]
    exact hdigits
  have hbehind : behindWhole (c :: t) = [] := by rw [behindWhole, hwhole, List.drop_length]
  have hparts : ofParts ((c :: t).head? == some (.ofChar '-')) (c :: t) [] none =
      .error (.beyond (.digits (c :: t).length)) := by
    simp only [ofParts, if_pos hlimit]
    rfl
  rw [readNumber_eq, hsign, hwhole, hbehind]
  exact congrArg (Except.map _) hparts

end Automation.Json
