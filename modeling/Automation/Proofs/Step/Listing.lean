import Automation.Proofs.Sequence
import Automation.Proofs.Step.Order
import Automation.Proofs.Step.Showing
import Mathlib

/-!
# The order of listed steps

An entry of a list is read as a step on its own: numbered one, whatever number it declares, and of the
kind `Process` if it names none. Of the list it takes no more than its place. The steps of a list are
those of its entries, in the order of the numbers that the entries declare, where an entry that declares
none goes by its place; entries with equal numbers keep the order of the list.

Main statement: `readList_in_order`.
-/

namespace Automation

namespace Step

variable {s : Step} {place : Nat} {item : Json} {items : List Json} {members : Members} {key : Text}

/-! ### Entries on their own -/

/-- The members of an entry with a number in the place of what it declares. -/
def withNumber (n : Int) (members : Members) : Members :=
  (members.without ["step", "index"]).put "step" (.int n)

/-- The members of an entry with a type: if it has none its kind, or else that of a process. -/
def withType (members : Members) : Members :=
  if (members.get? "type").isSome then members
  else (members.without ["kind"]).put "type" ((members.get? "kind").getD "Process")

/-- The members of an entry as those of a step on its own. -/
def alone (members : Members) : Members :=
  withType (withNumber 1 members)

theorem get?_withNumber (n : Int) (members : Members) (key : Text) :
    (withNumber n members).get? key =
      if key = "step" then some (.int n) else if key = "index" then none else members.get? key := by
  rw [withNumber, Members.get?_put, Members.get?_without]
  by_cases hstep : key = "step" <;> simp [hstep]

theorem get?_withType (members : Members) (key : Text) :
    (withType members).get? key =
      if key = "type" then some ((members.get? "type").getD ((members.get? "kind").getD "Process"))
      else if key = "kind" ∧ members.get? "type" = none then none else members.get? key := by
  unfold withType
  cases htype : members.get? "type" with
  | some value =>
    by_cases hkey : key = "type"
    · simp [hkey, htype]
    · simp [hkey]
  | none =>
    rw [if_neg (by simp), Members.get?_put, Members.get?_without]
    by_cases hkey : key = "type" <;> simp [hkey]

/-- Nothing is changed of an entry but what tells its number and its kind. -/
theorem get?_alone (h : key ∉ (["step", "index", "type", "kind"] : List Text)) :
    (alone members).get? key = members.get? key := by
  simp only [List.mem_cons, List.not_mem_nil, or_false, not_or] at h
  obtain ⟨hstep, hindex, htype, hkind⟩ := h
  rw [alone, get?_withType, if_neg htype, if_neg (fun hboth => hkind hboth.1), get?_withNumber, if_neg hstep,
    if_neg hindex]

theorem required_number_alone (members : Members) :
    (alone members).required ["step", "index"] (.leaf index?) = .valid 1 := by
  have hget : (alone members).get? "step" = some (.int 1) := by
    rw [alone, get?_withType, if_neg (by decide), if_neg (fun hboth => absurd hboth.1 (by decide)), get?_withNumber,
      if_pos rfl]
  have hnamed : (alone members).named ["step", "index"] = some ("step", .int 1) := by
    simp [Members.named, hget]
  rw [Members.required, Members.field, hnamed]
  rfl

theorem required_kind_alone (members : Members) :
    (alone members).required ["type", "kind"] readKind =
      members.optional ["type", "kind"] .process readKind := by
  have hkeep : ∀ key ∈ (["type", "kind"] : List Text), (withNumber 1 members).get? key = members.get? key := by
    intro key hkey
    rw [get?_withNumber, if_neg (by rintro rfl; revert hkey; decide), if_neg (by rintro rfl; revert hkey; decide)]
  have hget : (alone members).get? "type" =
      some ((members.get? "type").getD ((members.get? "kind").getD "Process")) := by
    rw [alone, get?_withType, if_pos rfl, hkeep _ (by decide), hkeep _ (by decide)]
  have hnamed : (alone members).named ["type", "kind"] =
      some ("type", (members.get? "type").getD ((members.get? "kind").getD "Process")) := by
    simp [Members.named, hget]
  rw [Members.required, Members.optional, Members.field, Members.field, hnamed]
  cases htype : members.get? "type" with
  | some value => simp [Members.named, htype, readKind, Checked.leaf, Checked.inField]
  | none =>
    cases hkind : members.get? "kind" with
    | some value => simp [Members.named, htype, hkind, readKind, Checked.leaf, Checked.inField]
    | none =>
      have hprocess : StepKind.ofJson "Process" = .process := by decide +kernel
      simp [Members.named, htype, hkind, readKind, Checked.leaf, Checked.inField, hprocess]

/-- An entry on its own is read as it is in a list, but for its number. -/
theorem check_alone (members : Members) :
    check (.object (alone members)) =
      checkWith (.valid 1) (members.optional ["type", "kind"] .process readKind) members := by
  have hkeep : ∀ names : List String, (∀ name ∈ names, (name : Text) ∉ (["step", "index", "type", "kind"] : List Text)) →
      ∀ name ∈ names, (alone members).get? name = members.get? name :=
    fun names h name hname => get?_alone (h name hname)
  change checkWith ((alone members).required ["step", "index"] (.leaf index?))
    ((alone members).required ["type", "kind"] readKind) (alone members) = _
  rw [required_number_alone, required_kind_alone]
  simp only [checkWith, Members.optional]
  rw [Members.field_congr _ _ (hkeep ["description"] (by decide)),
    Members.field_congr _ _ (hkeep ["service", "service_label"] (by decide)),
    Members.field_congr _ _ (hkeep ["nodeType", "node_type_id"] (by decide)),
    Members.field_congr _ _ (hkeep ["rationale"] (by decide)),
    Members.field_congr _ _ (hkeep ["parallelizable"] (by decide)),
    Members.field_congr _ _ (hkeep ["errorHandling", "error_handling_note"] (by decide))]

/-- In a list an entry is read as on its own, and numbered with its place. -/
theorem readEntry_eq (place : Nat) (members : Members) :
    readEntry place members =
      (check (.object (alone members))).toOption.map fun s => { s with index := place } := by
  refine Option.ext fun s => ?_
  rw [readEntry, Checked.toOption_eq_some, checkWith_eq_valid, Option.map_eq_some_iff]
  simp only [Checked.toOption_eq_some, check_alone, checkWith_eq_valid]
  constructor
  · rintro ⟨hplace, hrest⟩
    obtain rfl := Checked.valid.inj hplace
    exact ⟨{ s with index := 1 }, ⟨rfl, hrest⟩, rfl⟩
  · rintro ⟨t, ⟨-, hrest⟩, rfl⟩
    exact ⟨rfl, hrest⟩

/-! ### Entries in order -/

/-- A step that an item of a list was read as. -/
structure Entry where
  /-- The number that the item declares, if it is one. -/
  declared : Option Int
  /-- The place of the item in the list. -/
  place : Nat
  /-- The step, read on its own. -/
  step : Step

namespace Entry

/-- The number that an entry goes by. -/
def number (e : Entry) : Int :=
  e.declared.getD e.place

/-- An entry goes before another one by its number, or else by its place. -/
def Before (a b : Entry) : Prop :=
  a.number < b.number ∨ a.number = b.number ∧ a.place < b.place

end Entry

/-- The number that was declared, if it is one. -/
def Declared.number? : Declared → Option Int
  | number n => some n
  | _ => none

/-- The entry that an item at a place of a list is read as, if it is a step. -/
def entryAt? (place : Nat) : Json → Option Entry
  | .object members => (check (.object (alone members))).toOption.map fun s =>
      { declared := (Declared.ofMembers members).number?, place, step := s }
  | _ => none

/-- The entries of a list from a place on. -/
def entries (place : Nat) (items : List Json) : List Entry :=
  (items.zipIdx place).filterMap fun (item, place) => entryAt? place item

/-- Entries sorted by the numbers that they go by. -/
def arranged (entries : List Entry) : List Entry :=
  entries.mergeSort fun a b => decide (a.number ≤ b.number)

theorem entries_cons (place : Nat) (item : Json) (items : List Json) :
    entries place (item :: items) = (entryAt? place item).toList ++ entries (place + 1) items := by
  have hrest : (items.zipIdx (place + 1)).filterMap (fun (item, place) => entryAt? place item) =
      entries (place + 1) items := rfl
  rw [entries, List.zipIdx_cons, List.filterMap_cons, hrest]
  cases hitem : entryAt? place item <;> simp [hitem]

theorem place_of_entryAt? {e : Entry} (h : entryAt? place item = some e) : e.place = place := by
  cases item with
  | object members =>
    obtain ⟨-, -, rfl⟩ := Option.map_eq_some_iff.1 h
    rfl
  | _ => cases h

theorem le_place_of_mem_entries {e : Entry} (h : e ∈ entries place items) : place ≤ e.place := by
  obtain ⟨⟨item, p⟩, hmem, he⟩ := List.mem_filterMap.1 h
  rw [place_of_entryAt? he]
  exact (List.mem_zipIdx hmem).1

/-- Entries are listed by their places. -/
theorem pairwise_place_entries (place : Nat) (items : List Json) :
    (entries place items).Pairwise fun a b => a.place < b.place := by
  induction items generalizing place with
  | nil => simp [entries]
  | cons item items ih =>
    rw [entries_cons]
    cases hitem : entryAt? place item with
    | none => exact ih (place + 1)
    | some e =>
      refine List.pairwise_cons.2 ⟨?_, ih (place + 1)⟩
      intro other hother
      rw [place_of_entryAt? hitem]
      exact le_place_of_mem_entries hother

/-- Sorted entries go one before the other. -/
theorem pairwise_before_arranged {entries : List Entry} (h : entries.Pairwise fun a b => a.place < b.place) :
    (arranged entries).Pairwise Entry.Before :=
  pairwise_mergeSort_by Entry.number h

/-! ### Lists -/

theorem unnumbered_of_entryAt? {e : Entry} (h : entryAt? place item = some e) : e.step.unnumbered = e.step := by
  cases item with
  | object members =>
    obtain ⟨s, hs, rfl⟩ := Option.map_eq_some_iff.1 h
    rw [Checked.toOption_eq_some, check_alone, checkWith_eq_valid] at hs
    rw [unnumbered, Checked.valid.inj hs.1]
  | _ => cases h

theorem unnumbered_of_mem_entries {e : Entry} (h : e ∈ entries place items) : e.step.unnumbered = e.step := by
  obtain ⟨_, -, hitem⟩ := List.mem_filterMap.1 h
  exact unnumbered_of_entryAt? hitem

theorem mem_arranged {e : Entry} {entries : List Entry} : e ∈ arranged entries ↔ e ∈ entries :=
  List.mem_mergeSort

/-- An item that is read goes by the number of its entry. -/
theorem numbered?_eq (h : ¬IsUnbounded item) (place : Nat) :
    numbered? place item =
      (entryAt? place item).map fun e => (e.number, { e.step with index := e.place }) := by
  cases item with
  | object members =>
    have hdeclared : (Declared.ofMembers members).order place =
        some ((Declared.ofMembers members).number?.getD place) := by
      cases hof : Declared.ofMembers members with
      | unbounded => exact absurd (Declared.ofMembers_eq_unbounded.1 hof) h
      | _ => rfl
    rw [numbered?, entryAt?, hdeclared, readEntry_eq]
    cases (check (.object (alone members))).toOption <;> rfl
  | _ => rfl

/-- A list without infinities is read as its entries in order. -/
theorem readList_of_bounded {answer : Json} (h : ¬DeclaresInfinity answer) :
    readList answer = some (reindex ((arranged (entries 1 (listOf answer))).map Entry.step)) := by
  have hbounded : ∀ item ∈ listOf answer, ¬IsUnbounded item := fun item hitem hunbounded => h ⟨item, hitem, hunbounded⟩
  have hread : ((listOf answer).zipIdx 1).filterMap (fun (item, place) => numbered? place item) =
      (entries 1 (listOf answer)).map fun e => (e.number, { e.step with index := e.place }) := by
    rw [entries, List.map_filterMap]
    refine List.filterMap_congr fun pair hpair => ?_
    exact numbered?_eq (hbounded _ (List.fst_mem_of_mem_zipIdx hpair)) _
  rw [readList, readEntries_of_bounded hbounded, Option.map_some, hread,
    ← List.map_mergeSort (r := fun a b => decide (a.number ≤ b.number)) (fun _ _ _ _ => rfl), List.map_map, arranged]
  refine congrArg some (reindex_inj.2 ?_)
  rw [List.map_map, List.map_map]
  rfl

theorem map_unnumbered_arranged (place : Nat) (items : List Json) :
    ((arranged (entries place items)).map Entry.step).map unnumbered =
      (arranged (entries place items)).map Entry.step := by
  rw [List.map_map]
  exact List.map_congr_left fun e he => unnumbered_of_mem_entries (mem_arranged.1 he)

/-- **Listed steps are those of the entries, in order.** Unless an entry declares an infinity, the steps of a
list are those that its entries are read as on their own, up to their numbers. They are sorted by the
number that an entry declares, or else its place, and then by their places, and numbered from one. -/
theorem readList_in_order {answer : Json} (h : ¬DeclaresInfinity answer) :
    ∃ (steps : List Step) (sorted : List Entry), readList answer = some steps ∧
      sorted.Perm (entries 1 (listOf answer)) ∧ sorted.Pairwise Entry.Before ∧
      steps.map unnumbered = sorted.map Entry.step ∧
      steps.map index = List.range' 1 (entries 1 (listOf answer)).length := by
  have hperm : (arranged (entries 1 (listOf answer))).Perm (entries 1 (listOf answer)) := List.mergeSort_perm _ _
  refine ⟨_, _, readList_of_bounded h, hperm, pairwise_before_arranged (pairwise_place_entries _ _), ?_, ?_⟩
  · rw [map_unnumbered_reindex, map_unnumbered_arranged]
  · rw [map_index_reindex, List.length_map, hperm.length_eq]

/-- A list of steps with an item that is none, where numbers are declared in three ways. -/
def mixedList : Json :=
  .array [
    .ofFields [("step", "03"), ("kind", "trigger"), ("index", .int 9)],
    .int 7,
    .ofFields [("description", "wait"), ("step", .null)],
    .ofFields [("index", .bool true), ("type", "Action"), ("description", "send")]]

/-- The last entry declares one, and the second one goes by its place, which is the number of the first. -/
theorem readList_in_order_mixedList :
    ¬DeclaresInfinity mixedList ∧
      readList mixedList = some [⟨1, .action, "send", [], [], none, false, none⟩,
        ⟨2, .trigger, [], [], [], none, false, none⟩, ⟨3, .process, "wait", [], [], none, false, none⟩] ∧
      ∃ (steps : List Step) (sorted : List Entry), readList mixedList = some steps ∧
        sorted.Perm (entries 1 (listOf mixedList)) ∧ sorted.Pairwise Entry.Before ∧
        steps.map unnumbered = sorted.map Entry.step ∧
        steps.map index = List.range' 1 (entries 1 (listOf mixedList)).length := by
  have hread : readList mixedList = some [⟨1, .action, "send", [], [], none, false, none⟩,
      ⟨2, .trigger, [], [], [], none, false, none⟩, ⟨3, .process, "wait", [], [], none, false, none⟩] := by
    cbv
  have hbounded : ¬DeclaresInfinity mixedList := by
    rw [← readList_eq_none, hread]
    exact Option.some_ne_none _
  exact ⟨hbounded, hread, readList_in_order hbounded⟩

end Step

end Automation
