import Automation.Chars.Case
import Mathlib.Data.List.Infix

/-!
# Lower case within a text

A piece of a text is written in lower case as it would be by itself, but for its capital sigmas: whether one of
them takes the final form depends on what stands around it. `lowerWithin` is the lower-case form of a piece at its
place. It is that of the piece by itself exactly if each sigma is final in the text where it is final in the piece
(`lowerWithin_eq_lower_iff`).

What stands around a piece matters to a sigma at one of its ends only, where nothing but code points that are
looked through lies between. Without such a sigma a piece has one lower-case form everywhere
(`keepsSigmas_of_not_exposed`); with one there is a text around it in which its lower-case form does not even occur
(`exists_not_infix_of_exposed`). Letters from A to Z are not concerned: a text has one lower-case form in all cases of
them (`lower_toLower`).
-/

namespace Automation.Chars

variable {a b : Bool} {c x : CodePoint} {t u p q k rest more : Text}

/-! ### A piece of a text -/

/-- Whether the last code point of a text that is not looked through has a case; `before` says it of what stands
before the text. -/
def endsCased (before : Bool) : Text → Bool
  | [] => before
  | c :: rest => endsCased (if isLookedThrough c then before else isCased c) rest

/-- The lower-case form of a piece of a text. `afterCased` tells of what stands before it, `rest` stands behind it. -/
def lowerWithin (afterCased : Bool) : Text → Text → Text
  | [], _ => []
  | c :: t, rest =>
    lowerAt afterCased c (t ++ rest) ++ lowerWithin (if isLookedThrough c then afterCased else isCased c) t rest

theorem endsCased_append (before : Bool) (t u : Text) :
    endsCased before (t ++ u) = endsCased (endsCased before t) u := by
  induction t generalizing before with
  | nil => rfl
  | cons c t ih => exact ih _

theorem lowerFrom_append_within (afterCased : Bool) (t rest : Text) :
    lowerFrom afterCased (t ++ rest) = lowerWithin afterCased t rest ++ lowerFrom (endsCased afterCased t) rest := by
  induction t generalizing afterCased with
  | nil => rfl
  | cons c t ih =>
    rw [List.cons_append, lowerFrom, ih, lowerWithin, endsCased, List.append_assoc]

theorem lowerWithin_nil (afterCased : Bool) (t : Text) : lowerWithin afterCased t [] = lowerFrom afterCased t := by
  have hwhole := lowerFrom_append_within afterCased t []
  rw [List.append_nil, lowerFrom, List.append_nil] at hwhole
  exact hwhole.symm

/-- The lower-case form of a piece occurs in that of the text. -/
theorem lowerWithin_infix (p k q : Text) :
    lowerWithin (endsCased false p) k q <:+: Text.lower (p ++ (k ++ q)) := by
  rw [Text.lower, lowerFrom_append_within, lowerFrom_append_within]
  exact ⟨_, _, List.append_assoc ..⟩

/-! ### Sigmas -/

/-- The form of a sigma is all that depends on what stands around a code point. -/
theorem lowerAt_eq_iff : lowerAt a c t = lowerAt b c u ↔
    (c = 'Σ' → (a && !startsCased t) = (b && !startsCased u)) := by
  rw [lowerAt, lowerAt]
  by_cases hsigma : c = 'Σ'
  · rw [if_pos hsigma, if_pos hsigma]
    cases a && !startsCased t <;> cases b && !startsCased u <;> simp [hsigma]
  · simp [hsigma]

theorem length_lowerAt (a b : Bool) (c : CodePoint) (t u : Text) :
    (lowerAt a c t).length = (lowerAt b c u).length := by
  rw [lowerAt, lowerAt]
  split
  · split <;> split <;> rfl
  · split <;> rfl

theorem length_lowerWithin (a b : Bool) (t rest more : Text) :
    (lowerWithin a t rest).length = (lowerWithin b t more).length := by
  induction t generalizing a b with
  | nil => rfl
  | cons c t ih =>
    rw [lowerWithin, lowerWithin, List.length_append, List.length_append, length_lowerAt a b c _ (t ++ more), ih]

theorem length_lower (a : Bool) (t rest : Text) : (Text.lower t).length = (lowerWithin a t rest).length := by
  rw [Text.lower, ← lowerWithin_nil]
  exact length_lowerWithin ..

/-- A piece has the same form at two places exactly if each of its sigmas has. -/
theorem lowerWithin_eq_iff : lowerWithin a t rest = lowerWithin b t more ↔
    ∀ u v, t = u ++ .ofChar 'Σ' :: v →
      (endsCased a u && !startsCased (v ++ rest)) = (endsCased b u && !startsCased (v ++ more)) := by
  induction t generalizing a b with
  | nil => exact ⟨fun _ u v h => absurd h (by simp), fun _ => rfl⟩
  | cons c t ih =>
    rw [lowerWithin, lowerWithin]
    constructor
    · intro h u v huv
      obtain ⟨hfirst, hrest⟩ := List.append_inj h (length_lowerAt ..)
      rcases List.cons_eq_append_iff.1 huv with ⟨rfl, hsigma⟩ | ⟨u, rfl, rfl⟩
      · obtain ⟨rfl, rfl⟩ := List.cons.inj hsigma
        exact lowerAt_eq_iff.1 hfirst rfl
      · exact ih.1 hrest u v rfl
    · intro h
      have hfirst : lowerAt a c (t ++ rest) = lowerAt b c (t ++ more) :=
        lowerAt_eq_iff.2 fun hsigma => h [] t (hsigma ▸ rfl)
      rw [hfirst, ih.2 fun u v huv => h (c :: u) v (huv ▸ rfl)]

/-- A sigma between two texts is the final one of a word: it stands behind a letter with a case and not before
one. -/
def IsFinal (before behind : Text) : Prop :=
  endsCased false before ∧ ¬startsCased behind

/-- Each sigma of a piece is final in a text exactly if it is in the piece by itself. -/
def KeepsSigmas (before piece behind : Text) : Prop :=
  ∀ u v, piece = u ++ .ofChar 'Σ' :: v → (IsFinal (before ++ u) (v ++ behind) ↔ IsFinal u v)

theorem lowerWithin_eq_lower_iff :
    lowerWithin (endsCased false p) k q = Text.lower k ↔ KeepsSigmas p k q := by
  rw [Text.lower, ← lowerWithin_nil, lowerWithin_eq_iff]
  refine forall₃_congr fun u v _ => ?_
  rw [IsFinal, IsFinal, endsCased_append, List.append_nil]
  cases endsCased (endsCased false p) u <;> cases startsCased (v ++ q) <;>
    cases endsCased false u <;> cases startsCased v <;> decide

/-! ### Sigmas at the ends -/

/-- A sigma of a piece stands at an end of it: nothing but what is looked through is in front of it and no letter
with a case behind it, or nothing but what is looked through is behind it and a letter with a case in front. -/
def Exposed (piece : Text) : Prop :=
  ∃ u v, piece = u ++ .ofChar 'Σ' :: v ∧
    ((∀ c ∈ u, isLookedThrough c) ∧ ¬startsCased v ∨ (∀ c ∈ v, isLookedThrough c) ∧ endsCased false u)

theorem endsCased_of_lookedThrough (h : ∀ c ∈ t, isLookedThrough c) (before : Bool) : endsCased before t = before := by
  induction t with
  | nil => rfl
  | cons c t ih =>
    obtain ⟨hc, hrest⟩ := List.forall_mem_cons.1 h
    rw [endsCased, if_pos hc, ih hrest]

theorem startsCased_of_lookedThrough (h : ∀ c ∈ t, isLookedThrough c) (rest : Text) :
    startsCased (t ++ rest) = startsCased rest := by
  induction t with
  | nil => rfl
  | cons c t ih =>
    obtain ⟨hc, hrest⟩ := List.forall_mem_cons.1 h
    rw [List.cons_append, startsCased, if_pos hc, ih hrest]

/-- A code point that is not looked through hides what stands before it. -/
theorem endsCased_congr (h : ¬∀ c ∈ t, isLookedThrough c) (a b : Bool) : endsCased a t = endsCased b t := by
  induction t generalizing a b with
  | nil => exact absurd (by simp) h
  | cons c t ih =>
    rw [endsCased, endsCased]
    by_cases hc : isLookedThrough c
    · exact ih (fun hrest => h (List.forall_mem_cons.2 ⟨hc, hrest⟩)) _ _
    · rw [if_neg hc, if_neg hc]

/-- A code point that is not looked through hides what stands behind it. -/
theorem startsCased_hidden (h : ¬∀ c ∈ t, isLookedThrough c) (rest : Text) :
    startsCased (t ++ rest) = startsCased t := by
  induction t with
  | nil => exact absurd (by simp) h
  | cons c t ih =>
    rw [List.cons_append, startsCased, startsCased]
    by_cases hc : isLookedThrough c
    · rw [if_pos hc, if_pos hc, ih fun hrest => h (List.forall_mem_cons.2 ⟨hc, hrest⟩)]
    · rw [if_neg hc, if_neg hc]

theorem startsCased_eq_false_of_lookedThrough (h : ∀ c ∈ t, isLookedThrough c) : startsCased t = false := by
  rw [← List.append_nil t, startsCased_of_lookedThrough h]
  rfl

/-- Without a sigma at an end, a piece has one lower-case form in all texts. -/
theorem keepsSigmas_of_not_exposed (h : ¬Exposed k) (p q : Text) : KeepsSigmas p k q := by
  intro u v hk
  have hfront : (∀ c ∈ u, isLookedThrough c) → startsCased v := by
    intro hu
    by_contra hv
    exact h ⟨u, v, hk, .inl ⟨hu, hv⟩⟩
  have hback : (∀ c ∈ v, isLookedThrough c) → ¬endsCased false u := fun hv hu => h ⟨u, v, hk, .inr ⟨hv, hu⟩⟩
  rw [IsFinal, IsFinal, endsCased_append]
  by_cases hu : ∀ c ∈ u, isLookedThrough c
  · -- a letter with a case follows, in the piece and so in the text
    have hv : startsCased v := hfront hu
    have hseen : ¬∀ c ∈ v, isLookedThrough c := by
      intro hall
      rw [startsCased_eq_false_of_lookedThrough hall] at hv
      cases hv
    rw [startsCased_hidden hseen]
    exact iff_of_false (fun hfinal => hfinal.2 hv) fun hfinal => hfinal.2 hv
  · rw [endsCased_congr hu (endsCased false p) false]
    by_cases hv : ∀ c ∈ v, isLookedThrough c
    · exact iff_of_false (fun hfinal => hback hv hfinal.1) fun hfinal => hback hv hfinal.1
    · rw [startsCased_hidden hv]

/-- A letter with a case that is written as itself in lower case. -/
structure IsSmall (x : CodePoint) : Prop where
  /-- It has a case. -/
  cased : isCased x
  /-- No sigma looks through it. -/
  seen : ¬isLookedThrough x
  /-- It stays. -/
  lower_eq : ∀ afterCased rest, lowerAt afterCased x rest = [x]

theorem exists_isSmall_ne (other : Option CodePoint) : ∃ x, IsSmall x ∧ other ≠ some x := by
  have ha : IsSmall 'a' := ⟨by decide +kernel, by decide +kernel, lowerAt_eq_self (by decide)⟩
  have hb : IsSmall 'b' := ⟨by decide +kernel, by decide +kernel, lowerAt_eq_self (by decide)⟩
  by_cases hother : other = some (.ofChar 'a')
  · refine ⟨'b', hb, ?_⟩
    rw [hother]
    decide
  · exact ⟨'a', ha, hother⟩

theorem eq_of_infix_cons (h : p <:+: x :: t) (hlength : p.length = t.length) (hne : p.head? ≠ some x) : p = t := by
  rcases List.infix_cons_iff.1 h with hprefix | hinfix
  · rcases List.prefix_cons_iff.1 hprefix with rfl | ⟨rest, rfl, -⟩
    · exact (List.length_eq_zero_iff.1 hlength.symm).symm
    · exact absurd rfl hne
  · exact hinfix.eq_of_length hlength

theorem eq_of_infix_concat (h : p <:+: t ++ [x]) (hlength : p.length = t.length) (hne : p.getLast? ≠ some x) :
    p = t := by
  refine List.reverse_inj.1 (eq_of_infix_cons (x := x) ?_ (by simpa using hlength) (by simpa using hne))
  rw [← List.reverse_concat]
  exact List.reverse_infix.2 h

/-- With a sigma at an end, a letter beside a piece can change the lower-case form of the piece, so that it does not
occur in that of the whole. -/
theorem exists_not_infix_of_exposed (h : Exposed k) : ∃ t, k <:+: t ∧ ¬Text.lower k <:+: Text.lower t := by
  obtain ⟨u, v, hk, ⟨hu, hv⟩ | ⟨hv, hu⟩⟩ := h
  · -- a letter in front makes the sigma final
    obtain ⟨x, hx, hne⟩ := exists_isSmall_ne (Text.lower k).head?
    refine ⟨x :: k, (List.suffix_cons x k).isInfix, fun hinfix => ?_⟩
    have hwhole : Text.lower (x :: k) = x :: lowerWithin (endsCased false [x]) k [] := by
      rw [lowerWithin_nil, Text.lower, lowerFrom, hx.lower_eq]
      rfl
    rw [hwhole] at hinfix
    have hsame := eq_of_infix_cons hinfix (length_lower ..) hne
    have hfinal : IsFinal ([x] ++ u) (v ++ []) := by
      rw [IsFinal, endsCased_append, endsCased_of_lookedThrough hu, endsCased, if_neg hx.seen, List.append_nil]
      exact ⟨hx.cased, hv⟩
    have hnot : ¬IsFinal u v := by
      rw [IsFinal, endsCased_of_lookedThrough hu]
      exact fun hfinal => Bool.false_ne_true hfinal.1
    exact hnot ((lowerWithin_eq_lower_iff.1 hsame.symm u v hk).1 hfinal)
  · -- a letter behind makes the sigma another one than a final one
    obtain ⟨x, hx, hne⟩ := exists_isSmall_ne (Text.lower k).getLast?
    refine ⟨k ++ [x], (List.prefix_append k [x]).isInfix, fun hinfix => ?_⟩
    have hwhole : Text.lower (k ++ [x]) = lowerWithin (endsCased false []) k [x] ++ [x] := by
      rw [Text.lower, lowerFrom_append_within, lowerFrom, hx.lower_eq]
      rfl
    rw [hwhole] at hinfix
    have hsame := eq_of_infix_concat hinfix (length_lower ..) hne
    have hfinal : IsFinal u v := by
      rw [IsFinal, startsCased_eq_false_of_lookedThrough hv]
      exact ⟨hu, Bool.false_ne_true⟩
    have hnot : ¬IsFinal ([] ++ u) (v ++ [x]) := by
      rw [IsFinal, startsCased_of_lookedThrough hv, startsCased, if_neg hx.seen]
      exact fun hfinal => hfinal.2 hx.cased
    exact hnot ((lowerWithin_eq_lower_iff.1 hsame.symm u v hk).2 hfinal)

/-! ### Letters from A to Z -/

/-- A letter from A to Z and the one from a to z are alike to all that looks at case. -/
theorem toLower_alike (c : CodePoint) :
    isLookedThrough c.toLower = isLookedThrough c ∧ isCased c.toLower = isCased c ∧
      lowerPoint c.toLower = lowerPoint c ∧ (c.toLower = 'Σ' ↔ c = 'Σ') ∧ (c.toLower = 'İ' ↔ c = 'İ') := by
  have hletters : ∀ n < 26, let c := CodePoint.ofNat (0x41 + n)
      isLookedThrough c.toLower = isLookedThrough c ∧ isCased c.toLower = isCased c ∧
        lowerPoint c.toLower = lowerPoint c ∧ (c.toLower = 'Σ' ↔ c = 'Σ') ∧ (c.toLower = 'İ' ↔ c = 'İ') := by
    decide +kernel
  by_cases hletter : c.isBetween 'A' 'Z'
  · have hrange : 0x41 ≤ c.value ∧ c.value ≤ 0x5a := by
      rwa [CodePoint.isBetween, Bool.and_eq_true, decide_eq_true_eq, decide_eq_true_eq] at hletter
    have hc : CodePoint.ofNat (0x41 + (c.value - 0x41)) = c := by
      rw [Nat.add_sub_cancel' hrange.1, CodePoint.ofNat_value]
    have halike := hletters (c.value - 0x41) (by omega)
    rwa [hc] at halike
  · rw [CodePoint.toLower, if_neg hletter]
    exact ⟨rfl, rfl, rfl, Iff.rfl, Iff.rfl⟩

theorem startsCased_toLower (t : Text) : startsCased t.toLower = startsCased t := by
  induction t with
  | nil => rfl
  | cons c t ih =>
    obtain ⟨hlook, hcased, -⟩ := toLower_alike c
    rw [Text.toLower, List.map_cons, startsCased, startsCased, hlook, hcased, ← ih]
    rfl

theorem lowerFrom_toLower (afterCased : Bool) (t : Text) : lowerFrom afterCased t.toLower = lowerFrom afterCased t := by
  induction t generalizing afterCased with
  | nil => rfl
  | cons c t ih =>
    obtain ⟨hlook, hcased, hpoint, hsigma, hdotted⟩ := toLower_alike c
    have hfirst : lowerAt afterCased c.toLower (Text.toLower t) = lowerAt afterCased c t := by
      simp only [lowerAt, startsCased_toLower, hpoint, hsigma, hdotted]
    change lowerFrom afterCased (c.toLower :: Text.toLower t) = _
    rw [lowerFrom, lowerFrom, hfirst, hlook, hcased, ih]

/-- The case of the letters from A to Z makes no difference. -/
theorem lower_toLower (t : Text) : t.toLower.lower = t.lower :=
  lowerFrom_toLower false t

end Automation.Chars
