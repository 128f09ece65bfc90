import Automation.Step.Reading

/-!
# Which lists of steps are read

A list of steps is read unless an entry declares an infinity as its number. Each entry is then read
on its own, with its place as all that it knows of the list (`readEntries_of_bounded`).
-/

namespace Automation.Step

variable {place : Nat} {items : List Json} {answer : Json} {members : Members}

/-- The number that an entry at a place goes by. -/
def Declared.order (place : Nat) : Declared → Option Int
  | number n => some n
  | nothing => some place
  | unbounded => none

/-- The step that an item at a place of a list is read as, with the number it goes by. -/
def numbered? (place : Nat) : Json → Option (Int × Step)
  | .object members => do
    let n ← (Declared.ofMembers members).order place
    let step ← readEntry place members
    return (n, step)
  | _ => none

/-- An item that declares an infinity as its number. -/
def IsUnbounded (item : Json) : Prop :=
  ∃ members name negative, item = .object members ∧
    Members.named members ["step", "index"] = some (name, .float (.infinite negative))

/-- An answer that lists a step with an infinity as its number. -/
def DeclaresInfinity (answer : Json) : Prop :=
  ∃ item ∈ listOf answer, IsUnbounded item

/-! ### Numbers -/

theorem Declared.ofJson_eq_unbounded {value : Json} :
    ofJson value = unbounded ↔ ∃ negative, value = .float (.infinite negative) := by
  constructor
  · intro h
    unfold ofJson at h
    split at h <;> try cases h
    · rename_i negative
      exact ⟨negative, rfl⟩
    · split at h <;> cases h
  · rintro ⟨negative, rfl⟩
    rfl

theorem Declared.ofMembers_eq_unbounded : ofMembers members = unbounded ↔ IsUnbounded (.object members) := by
  constructor
  · intro h
    unfold ofMembers at h
    split at h
    · rename_i name value hnamed
      obtain ⟨negative, rfl⟩ := ofJson_eq_unbounded.1 h
      exact ⟨members, name, negative, rfl, hnamed⟩
    · cases h
  · rintro ⟨_, name, negative, hobject, hnamed⟩
    obtain rfl := Json.object.inj hobject
    rw [ofMembers, hnamed]
    rfl

theorem Declared.order_eq_none {declared : Declared} : declared.order place = none ↔ declared = unbounded := by
  cases declared <;> simp [order]

/-! ### Entries -/

theorem readEntries_object (members : Members) (items : List Json) :
    readEntries place (.object members :: items) =
      match (Declared.ofMembers members).order place, readEntries (place + 1) items with
      | some n, some steps =>
        match readEntry place members with
        | some step => some ((n, step) :: steps)
        | none => some steps
      | _, _ => none := by
  rw [readEntries]
  cases Declared.ofMembers members <;> rfl

/-- An item that is no object is passed over. -/
theorem readEntries_other (place : Nat) (items : List Json) {item : Json} (h : ∀ members, item ≠ .object members) :
    numbered? place item = none ∧ readEntries place (item :: items) = readEntries (place + 1) items := by
  constructor
  · rw [numbered?]
    exact h
  · rw [readEntries]
    exact h

/-- Nothing is read of a list in which an item declares an infinity. -/
theorem readEntries_cons_of_isUnbounded {item : Json} (h : IsUnbounded item) :
    readEntries place (item :: items) = none := by
  obtain ⟨members, -, -, rfl, -⟩ := id h
  rw [readEntries_object, Declared.order_eq_none.2 (Declared.ofMembers_eq_unbounded.2 h)]

/-- Of a list is read what is read of its first item, if that is a step, and of the rest. -/
theorem readEntries_cons {item : Json} (h : ¬IsUnbounded item) :
    readEntries place (item :: items) =
      (readEntries (place + 1) items).map fun steps => (numbered? place item).toList ++ steps := by
  by_cases hobject : ∃ members, item = .object members
  · obtain ⟨members, rfl⟩ := hobject
    have horder : (Declared.ofMembers members).order place ≠ none := fun hnone =>
      h (Declared.ofMembers_eq_unbounded.1 (Declared.order_eq_none.1 hnone))
    obtain ⟨n, hn⟩ := Option.ne_none_iff_exists'.1 horder
    rw [readEntries_object, numbered?, hn]
    cases readEntries (place + 1) items with
    | none => rfl
    | some steps => cases readEntry place members <;> rfl
  · obtain ⟨hnone, hrest⟩ := readEntries_other place items (not_exists.1 hobject)
    rw [hnone, hrest]
    cases readEntries (place + 1) items <;> rfl

/-- A list without infinities is read item by item, each with its place. -/
theorem readEntries_of_bounded (h : ∀ item ∈ items, ¬IsUnbounded item) (place : Nat) :
    readEntries place items = some ((items.zipIdx place).filterMap fun (item, place) => numbered? place item) := by
  induction items generalizing place with
  | nil => rfl
  | cons item items ih =>
    rw [List.forall_mem_cons] at h
    rw [readEntries_cons h.1, ih h.2, List.zipIdx_cons, List.filterMap_cons]
    cases hitem : numbered? place item <;> simp [hitem]

/-- A list is not read if and only if one of its items declares an infinity. -/
theorem readEntries_eq_none : readEntries place items = none ↔ ∃ item ∈ items, IsUnbounded item := by
  constructor
  · intro h
    refine Classical.byContradiction fun hnone => ?_
    have hbounded : ∀ item ∈ items, ¬IsUnbounded item := fun item hitem hitem' => hnone ⟨item, hitem, hitem'⟩
    rw [readEntries_of_bounded hbounded] at h
    cases h
  · rintro ⟨item, hitem, hunbounded⟩
    induction items generalizing place with
    | nil => cases hitem
    | cons first items ih =>
      by_cases hfirst : IsUnbounded first
      · exact readEntries_cons_of_isUnbounded hfirst
      · have hrest : item ∈ items := by
          rcases List.mem_cons.1 hitem with rfl | hrest
          · exact absurd hunbounded hfirst
          · exact hrest
        rw [readEntries_cons hfirst, ih hrest]
        rfl

theorem readList_eq_none : readList answer = none ↔ DeclaresInfinity answer := by
  rw [readList, Option.map_eq_none_iff, readEntries_eq_none]
  rfl

instance : Decidable (DeclaresInfinity answer) :=
  decidable_of_iff _ readList_eq_none

end Automation.Step
