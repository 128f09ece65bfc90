import Automation.Proofs.Graph.Nodes

/-!
# Nodes do not overlap

Every place but the first is told by the place before it and the two steps: below it if both may run in
parallel, and at the top of the next column otherwise (`getElem?_places_succ`). From one step on the
places therefore go straight down as long as all steps may run in parallel, and are in columns further
to the right for good from the first step that may not (`place_of_lt`). Two places are thus never equal.

Main statement: `laidOut_places`.
-/

namespace Automation.Layout

variable {steps : List Step} {place p q : Position} {previous : Step} {i j : Nat}

/-- All steps from one index to another may run in parallel. -/
def AllParallel (steps : List Step) (i j : Nat) : Prop :=
  ∀ k s, i ≤ k → k ≤ j → steps[k]? = some s → s.parallelizable = true

/-- Steps are laid out in columns from left to right. -/
structure LaidOut (steps : List Step) (places : List Position) : Prop where
  /-- Every step has a place. -/
  length : places.length = steps.length
  /-- No two steps have the same one. -/
  nodup : places.Nodup
  /-- No step is to the left of one before it. -/
  ordered : places.Pairwise fun p q => p.x ≤ q.x
  /-- Two steps share a column if and only if all steps from the one to the other may run in parallel. -/
  shared : ∀ (i j : Nat) (p q : Position), i < j → places[i]? = some p → places[j]? = some q →
    (p.x = q.x ↔ AllParallel steps i j)
  /-- In a column every step is 200 below the one before it. -/
  below : ∀ (i j : Nat) (p q : Position), i < j → places[i]? = some p → places[j]? = some q → p.x = q.x →
    q.y = p.y + 200 * ((j : Int) - i)
  /-- The first column is at 250 and starts at 300. -/
  first : ∀ p ∈ places.head?, p = ⟨250, 300⟩
  /-- The next column is 400 to the right and starts at 300. -/
  column : ∀ (i : Nat) (p q : Position), places[i]? = some p → places[i + 1]? = some q → p.x ≠ q.x →
    q = ⟨p.x + 400, 300⟩

/-! ### One place after the other -/

theorem next_of_parallel {a b : Step} (ha : a.parallelizable = true) (hb : b.parallelizable = true) :
    next p a b = ⟨p.x, p.y + 200⟩ := by
  rw [next, ha, hb]
  rfl

theorem next_of_not_parallel {a b : Step} (h : ¬(a.parallelizable = true ∧ b.parallelizable = true)) :
    next p a b = ⟨p.x + 400, 300⟩ := by
  rw [next, if_neg (by simpa [and_comm] using h)]
  rfl

theorem getElem?_placesFrom_succ (hp : (place :: placesFrom place previous steps)[i]? = some p)
    (hq : (place :: placesFrom place previous steps)[i + 1]? = some q) :
    ∃ a b, (previous :: steps)[i]? = some a ∧ (previous :: steps)[i + 1]? = some b ∧ q = next p a b := by
  induction i generalizing place previous steps with
  | zero =>
    cases steps with
    | nil => cases hq
    | cons step rest =>
      obtain rfl := Option.some.inj hp
      exact ⟨previous, step, rfl, rfl, (Option.some.inj hq).symm⟩
  | succ i ih =>
    cases steps with
    | nil => cases hp
    | cons step rest => exact ih hp hq

/-- A place is the one after the place before it. -/
theorem getElem?_places_succ (hp : (places steps)[i]? = some p) (hq : (places steps)[i + 1]? = some q) :
    ∃ a b, steps[i]? = some a ∧ steps[i + 1]? = some b ∧ q = next p a b := by
  cases steps with
  | nil => cases hp
  | cons step rest => exact getElem?_placesFrom_succ hp hq

/-! ### Any two places -/

theorem allParallel_succ {b : Step} (hij : i ≤ j + 1) (hb : steps[j + 1]? = some b) :
    AllParallel steps i (j + 1) ↔ AllParallel steps i j ∧ b.parallelizable = true := by
  constructor
  · intro h
    exact ⟨fun k s hik hkj hs => h k s hik (by omega) hs, h (j + 1) b hij (Nat.le_refl _) hb⟩
  · rintro ⟨h, hparallel⟩ k s hik hkj hs
    rcases Nat.lt_or_eq_of_le hkj with hlt | rfl
    · exact h k s hik (by omega) hs
    · rwa [← Option.some.inj (hb.symm.trans hs)]

theorem allParallel_self {a : Step} (ha : steps[i]? = some a) : AllParallel steps i i ↔ a.parallelizable = true := by
  constructor
  · exact fun h => h i a (Nat.le_refl i) (Nat.le_refl i) ha
  · intro h k s hik hki hs
    obtain rfl : i = k := by omega
    rwa [← Option.some.inj (ha.symm.trans hs)]

/-- Where a place is from an earlier one: straight below it if all steps up to there may run in parallel,
and in a column further to the right if not. -/
theorem place_of_lt (hij : i < j) (hp : (places steps)[i]? = some p) (hq : (places steps)[j]? = some q) :
    AllParallel steps i j ∧ q = ⟨p.x, p.y + 200 * ((j : Int) - i)⟩ ∨ ¬AllParallel steps i j ∧ p.x + 400 ≤ q.x := by
  induction hij generalizing q with
  | refl =>
    obtain ⟨a, b, ha, hb, rfl⟩ := getElem?_places_succ hp hq
    have hall : AllParallel steps i (i + 1) ↔ a.parallelizable = true ∧ b.parallelizable = true := by
      rw [allParallel_succ (Nat.le_succ i) hb, allParallel_self ha]
    by_cases h : a.parallelizable = true ∧ b.parallelizable = true
    · refine .inl ⟨hall.2 h, ?_⟩
      rw [next_of_parallel h.1 h.2, Position.mk.injEq]
      exact ⟨rfl, by omega⟩
    · refine .inr ⟨fun hpar => h (hall.1 hpar), ?_⟩
      have hx : (next p a b).x = p.x + 400 := congrArg Position.x (next_of_not_parallel h)
      exact Int.le_of_eq hx.symm
  | @step j hij ih =>
    obtain ⟨r, hr⟩ : ∃ r, (places steps)[j]? = some r := by
      have hlength := (List.getElem?_eq_some_iff.1 hq).1
      exact ⟨_, List.getElem?_eq_getElem (Nat.lt_of_succ_lt hlength)⟩
    obtain ⟨a, b, ha, hb, rfl⟩ := getElem?_places_succ hr hq
    have hall := allParallel_succ (Nat.le_of_lt (Nat.lt_succ_of_lt hij)) hb
    by_cases h : a.parallelizable = true ∧ b.parallelizable = true
    · rw [next_of_parallel h.1 h.2]
      rcases ih hr with ⟨hpar, rfl⟩ | ⟨hpar, hx⟩
      · refine .inl ⟨hall.2 ⟨hpar, h.2⟩, ?_⟩
        rw [Position.mk.injEq]
        exact ⟨rfl, by simp only; omega⟩
      · exact .inr ⟨fun hboth => hpar (hall.1 hboth).1, hx⟩
    · rw [next_of_not_parallel h]
      refine .inr ⟨?_, ?_⟩
      · -- the two last steps are among those from `i` on
        intro hpar
        have hlast := hall.1 hpar
        exact h ⟨hlast.1 j a (Nat.le_of_lt hij) (Nat.le_refl j) ha, hlast.2⟩
      · rcases ih hr with ⟨-, rfl⟩ | ⟨-, hx⟩
        · exact Int.le_refl _
        · show p.x + 400 ≤ r.x + 400
          omega

/-! ### The layout -/

theorem ne_and_le_of_lt (hij : i < j) (hp : (places steps)[i]? = some p) (hq : (places steps)[j]? = some q) :
    p ≠ q ∧ p.x ≤ q.x := by
  rcases place_of_lt hij hp hq with ⟨-, rfl⟩ | ⟨-, hx⟩
  · refine ⟨?_, Int.le_refl _⟩
    intro heq
    have hy := congrArg Position.y heq
    simp only at hy
    omega
  · refine ⟨?_, by omega⟩
    rintro rfl
    omega

/-- **Steps are laid out in columns.** No two of them are at the same place, they go from left to right,
and those that may run in parallel and follow each other are below each other. -/
theorem laidOut_places (steps : List Step) : LaidOut steps (places steps) := by
  have hpairs : (places steps).Pairwise fun p q => p ≠ q ∧ p.x ≤ q.x := by
    rw [List.pairwise_iff_getElem]
    intro i j hi hj hij
    exact ne_and_le_of_lt hij (List.getElem?_eq_getElem hi) (List.getElem?_eq_getElem hj)
  refine
    { length := length_places steps
      nodup := hpairs.imp And.left
      ordered := hpairs.imp And.right
      shared := ?_
      below := ?_
      first := ?_
      column := ?_ }
  · intro i j p q hij hp hq
    rcases place_of_lt hij hp hq with ⟨hpar, rfl⟩ | ⟨hpar, hx⟩
    · exact iff_of_true rfl hpar
    · exact iff_of_false (by omega) hpar
  · intro i j p q hij hp hq hx
    rcases place_of_lt hij hp hq with ⟨-, rfl⟩ | ⟨-, hright⟩
    · rfl
    · omega
  · intro p hp
    cases steps with
    | nil => cases hp
    | cons step rest => exact (Option.some.inj hp).symm
  · intro i p q hp hq hx
    obtain ⟨a, b, -, -, rfl⟩ := getElem?_places_succ hp hq
    by_cases h : a.parallelizable = true ∧ b.parallelizable = true
    · rw [next_of_parallel h.1 h.2] at hx
      exact absurd rfl hx
    · exact next_of_not_parallel h

end Automation.Layout
