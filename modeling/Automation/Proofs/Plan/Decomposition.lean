import Automation.Proofs.Json.Floats
import Automation.Proofs.Record
import Automation.Proofs.Stage.Settlement
import Mathlib.Data.List.Forall2

/-!
# Which objects are taken apart

Every field of a decomposition is read from any value, so that an object can fail to be read for its
keys only: those that are kept as they are have to be strings (`Decomposition.check_eq_valid`). A trigger
that counts as present has a text that is not empty (`asText_ne_nil`), and each item of a list is read as
an object of its own (`forall₂_itemized`).

Main statement: `taken_apart`.
-/

namespace Automation

variable {name : String} {members given : Members} {value v : Json} {key : Text}

/-! ### Values as texts -/

namespace Json

theorem ofString_displayFloat_ne_nil (x : Binary64) : Text.ofString (displayFloat x) ≠ [] := by
  cases x with
  | nan => simp [displayFloat, Text.ofString]
  | infinite negative => cases negative <;> simp [displayFloat, Text.ofString]
  | finite negative m e =>
    have hbody : ∀ body : List Char, body ≠ [] → (if negative then '-' :: body else body) ≠ [] := by
      intro body hbody
      split
      · exact List.cons_ne_nil _ _
      · exact hbody
    show (String.ofList (Binary64.spellFinite Style.plainFloats negative m e)).toList.map CodePoint.ofChar ≠ []
    rw [String.toList_ofList, ne_eq, List.map_eq_nil_iff]
    refine hbody _ ?_
    split
    · exact List.cons_ne_nil _ _
    split
    split
    · unfold Binary64.positional
      split <;> simp
    · simp [Binary64.scientific]

/-- What counts as present has a text that is not empty. -/
theorem asText_ne_nil (h : value.isTruthy = true) : value.asText ≠ [] := by
  cases value with
  | null => cases h
  | bool b => cases b <;> simp [asText, display, displayInner, Text.ofString]
  | number n =>
    cases n with
    | int n =>
      show Text.ofString (writeInt n) ≠ []
      rw [ofString_writeInt]
      exact List.append_ne_nil_of_right_ne_nil _ decimal_ne_nil
    | float x => exact ofString_displayFloat_ne_nil x
  | text t => simpa [isTruthy, asText, display] using h
  | array items =>
    rw [asText, write, writeAt]
    unfold bracketed
    split <;> simp [Text.ofString]
  | object members =>
    rw [asText, write, writeAt]
    unfold bracketed
    split <;> simp [Text.ofString]

end Json

/-! ### Lists of objects -/

/-- The items that are given for a list of objects: those of a list that are not null, or a single value
that is neither. -/
def givenItems : Option Json → List Json
  | none => []
  | some .null => []
  | some (.array items) => items.filter (· ≠ .null)
  | some value => [value]

/-- An item of a list of objects says what a given item does. -/
inductive Itemizes (name : String) : Json → Members → Prop where
  /-- An object is kept. -/
  | object (members : Members) : Itemizes name (.object members) members
  /-- The text of anything else becomes a member. -/
  | other (value : Json) : value ≠ .null → (∀ members, value ≠ .object members) →
    Itemizes name value [(name, .text value.asText)]

theorem itemMembers?_eq_some : itemMembers? name value = some members ↔ Itemizes name value members := by
  constructor
  · intro h
    cases value with
    | null => cases h
    | object given =>
      obtain rfl := Option.some.inj h
      exact .object given
    | _ =>
      obtain rfl := Option.some.inj h
      exact .other _ (by simp) (by simp)
  · intro h
    cases h with
    | object => rfl
    | other _ hnull hobject => cases value <;> first | rfl | exact absurd rfl hnull | exact absurd rfl (hobject _)

theorem itemMembers?_eq_none : itemMembers? name value = none ↔ value = .null := by
  cases value <;> simp [itemMembers?]

theorem forall₂_filterMap_items (name : String) (items : List Json) :
    List.Forall₂ (Itemizes name) (items.filter (· ≠ .null)) (items.filterMap (itemMembers? name)) := by
  induction items with
  | nil => exact .nil
  | cons item items ih =>
    cases hitem : itemMembers? name item with
    | none =>
      rw [List.filterMap_cons_none hitem, itemMembers?_eq_none.1 hitem]
      exact ih
    | some members =>
      have hnull : item ≠ .null := fun hnull => by simp [hnull, itemMembers?] at hitem
      rw [List.filterMap_cons_some hitem, List.filter_cons_of_pos (by simpa using hnull)]
      exact .cons (itemMembers?_eq_some.1 hitem) ih

/-- Each given item is read as an object of its own. -/
theorem forall₂_itemized (name : String) (value : Json) :
    List.Forall₂ (Itemizes name) (givenItems (some value)) (itemized name value) := by
  cases value with
  | null => exact .nil
  | array items => exact forall₂_filterMap_items name items
  | _ => exact .cons (itemMembers?_eq_some.1 rfl) .nil

/-! ### Fields of any value -/

namespace Members

/-- The keys of the members beside some names are strings. -/
def StringsBeside (members : Members) (names : List Text) : Prop :=
  ∀ key ∈ (members.without names).keys, key.isString = true

instance (names : List Text) : Decidable (members.StringsBeside names) :=
  inferInstanceAs (Decidable (∀ key ∈ (members.without names).keys, key.isString = true))

theorem others_eq_valid {names : List Text} {rest : Members} :
    members.others names = .valid rest ↔ members.StringsBeside names ∧ members.without names = rest := by
  have hall : ((members.without names).all fun member => member.1.isString) = true ↔ members.StringsBeside names := by
    rw [List.all_eq_true, StringsBeside, keys, List.forall_mem_map]
  unfold others
  split
  · rename_i h
    simp [hall.1 h]
  · rename_i h
    simp [mt hall.2 h]

/-- A field that is read from any value is always read. -/
theorem optional_total {α : Type} {missing : α} (f : Json → α) :
    members.optional [name] missing (.leaf fun value => some (f value)) =
      .valid (((members.get? name).map f).getD missing) := by
  unfold optional field named
  rw [List.findSome?_singleton]
  cases members.get? name <;> rfl

end Members

/-! ### Decompositions -/

namespace Decomposition

/-- What an object says of a task, whether or not its keys are strings. -/
def told (members : Members) : Decomposition where
  trigger := ((members.get? "trigger").map triggerOf).getD manualTrigger
  dataSources := ((members.get? "dataSources").map (itemized "name")).getD []
  processingSteps := ((members.get? "processingSteps").map (itemized "action")).getD []
  outputs := ((members.get? "outputs").map (itemized "name")).getD []
  specialLogic := ((members.get? "specialLogic").map fun value => value.members?.getD []).getD []
  others := members.without known

/-- An object is read unless a key that would be kept is no string. -/
theorem check_eq_valid {d : Decomposition} :
    check v = .valid d ↔ ∃ members : Members, v = .object members ∧ members.StringsBeside known ∧ d = told members := by
  cases v with
  | object members =>
    have hfields : check (.object members) =
        (fun others => { told members with others }) <$> Members.others members known := by
      show ofMembers members = _
      simp only [ofMembers, readItemized, readObject, Members.optional_total]
      cases Members.others members known <;> rfl
    rw [hfields, Checked.map_eq_valid]
    simp only [Members.others_eq_valid, Json.object.injEq, exists_eq_left']
    constructor
    · rintro ⟨_, ⟨hkeys, rfl⟩, rfl⟩
      exact ⟨hkeys, rfl⟩
    · rintro ⟨hkeys, rfl⟩
      exact ⟨_, ⟨hkeys, rfl⟩, rfl⟩
  | _ => simp [check, Json.record]

/-! ### Triggers -/

/-- A trigger has a type. -/
theorem exists_type_triggerOf (value : Json) :
    ∃ type, (triggerOf value).get? "type" = some type ∧ type.isTruthy = true := by
  unfold triggerOf
  split
  · exact ⟨"manual", rfl, rfl⟩
  · rename_i htruthy
    split
    · rename_i members
      split
      · rename_i htype
        cases hget : Members.get? members "type" with
        | none => simp [hget, Json.isTruthy] at htype
        | some type => exact ⟨type, rfl, by simpa [hget] using htype⟩
      · exact ⟨"manual", by rw [Members.get?_put, if_pos rfl], rfl⟩
    · refine ⟨.text value.asText, rfl, ?_⟩
      have htext := Json.asText_ne_nil (by simpa using htruthy : value.isTruthy = true)
      simpa [Json.isTruthy] using htext

/-- A trigger keeps the members of an object, unless it is a type that does not count. -/
theorem get?_triggerOf_object (hkey : given.get? key = some value) (htype : key = "type" → value.isTruthy = true) :
    (triggerOf (.object given)).get? key = some value := by
  have hpresent : (Json.object given).isTruthy = true := by
    cases given with
    | nil => cases hkey
    | cons member rest => rfl
  simp only [triggerOf, hpresent, Bool.not_true, Bool.false_eq_true, if_false]
  split
  · exact hkey
  · rename_i hnone
    rw [Members.get?_put, if_neg, hkey]
    rintro rfl
    simp [hkey, htype rfl] at hnone

theorem told_trigger (members : Members) :
    (told members).trigger = triggerOf ((members.get? "trigger").getD .null) := by
  unfold told
  cases members.get? "trigger" <;> rfl

/-- A decomposition says of a task what an object does. -/
structure Says (d : Decomposition) (task : Json) (members : Members) : Prop where
  /-- The trigger has a type. -/
  type : ∃ type, d.trigger.get? "type" = some type ∧ type.isTruthy = true
  /-- A trigger that is an object keeps its members, unless it is a type that does not count. -/
  trigger : ∀ (given : Members) key value, members.get? "trigger" = some (.object given) → given.get? key = some value →
    (key = "type" → value.isTruthy = true) → d.trigger.get? key = some value
  /-- Every given source is listed. -/
  dataSources : List.Forall₂ (Itemizes "name") (givenItems (members.get? "dataSources")) d.dataSources
  /-- Every given output is listed. -/
  outputs : List.Forall₂ (Itemizes "name") (givenItems (members.get? "outputs")) d.outputs
  /-- Every given step is listed; if there is none, the task itself is. -/
  processingSteps :
    givenItems (members.get? "processingSteps") = [] ∧
        d.processingSteps = [Json.membersOf [("step", .int 1), ("action", task)]] ∨
      d.processingSteps ≠ [] ∧
        List.Forall₂ (Itemizes "action") (givenItems (members.get? "processingSteps")) d.processingSteps
  /-- The special logic is the object that is given, or else an empty one. -/
  specialLogic : d.specialLogic = ((members.get? "specialLogic").bind Json.members?).getD []
  /-- All other members are kept. -/
  others : d.others = members.without known

theorem forall₂_told (field name : String) : List.Forall₂ (Itemizes name) (givenItems (members.get? field))
    (((members.get? field).map (itemized name)).getD []) := by
  cases members.get? field with
  | none => exact .nil
  | some value => exact forall₂_itemized name value

/-- A decomposition in which the task itself is what is done, if nothing else is. -/
def completed (task : Json) (d : Decomposition) : Decomposition :=
  { d with processingSteps := if d.processingSteps = [] then [Stage.taskItself task] else d.processingSteps }

theorem says_completed (task : Json) (members : Members) : (completed task (told members)).Says task members where
  type := by
    show ∃ type, (told members).trigger.get? "type" = some type ∧ _
    rw [told_trigger]
    exact exists_type_triggerOf _
  trigger := by
    intro given key value htrigger hkey htype
    show (told members).trigger.get? key = some value
    rw [told_trigger, htrigger]
    exact get?_triggerOf_object hkey htype
  dataSources := forall₂_told "dataSources" "name"
  outputs := forall₂_told "outputs" "name"
  processingSteps := by
    have hgiven : List.Forall₂ (Itemizes "action") (givenItems (members.get? "processingSteps"))
        (told members).processingSteps := forall₂_told "processingSteps" "action"
    by_cases hnone : (told members).processingSteps = []
    · left
      rw [hnone] at hgiven
      exact ⟨List.forall₂_nil_right_iff.1 hgiven, if_pos hnone⟩
    · right
      have hsteps : (completed task (told members)).processingSteps = (told members).processingSteps := if_neg hnone
      rw [hsteps]
      exact ⟨hnone, hgiven⟩
  specialLogic := by
    show (told members).specialLogic = _
    unfold told
    cases members.get? "specialLogic" <;> rfl
  others := rfl

end Decomposition

/-! ### The stage -/

namespace Stage

variable {store : Store} {names : List Json} {task : Json}

theorem readDecomposition_object (task : Json) (h : members.StringsBeside Decomposition.known) :
    readDecomposition task (.object members) = .accepted (Decomposition.completed task (.told members)) := by
  rw [readDecomposition, Decomposition.check_eq_valid.2 ⟨members, rfl, h, rfl⟩, Decomposition.completed]
  by_cases hsteps : (Decomposition.told members).processingSteps = [] <;> simp [hsteps]

theorem readDecomposition_eq_rejected
    (h : ¬∃ members : Members, v = .object members ∧ members.StringsBeside Decomposition.known) :
    readDecomposition task v = .rejected := by
  unfold readDecomposition
  cases hcheck : Decomposition.check v with
  | invalid defects => rfl
  | valid d =>
    obtain ⟨members, hv, hkeys, -⟩ := Decomposition.check_eq_valid.1 hcheck
    exact absurd ⟨members, hv, hkeys⟩ h

/-- **Every object is taken apart, unless a key that would be kept is no string.** The output says of the
task what the object does. From anything else, and from an object with such a key, comes the
decomposition that says nothing, and this is recorded. -/
theorem taken_apart (hrecord : store.fallbacks? = some names) (task v : Json) :
    (∀ members : Members, v = .object members → members.StringsBeside Decomposition.known →
      ∃ d : Decomposition, decomposition.finish store task (.value v) = .ok { store with decomposition := some d } ∧
        d.Says task members) ∧
      ((¬∃ members : Members, v = .object members ∧ members.StringsBeside Decomposition.known) →
        decomposition.finish store task (.value v) =
          .ok { store.recorded names "decomposition" with decomposition := some .empty }) := by
  constructor
  · rintro members rfl hkeys
    exact ⟨_, finish_ok_iff.2 (.inl ⟨_, _, rfl, readDecomposition_object task hkeys, rfl⟩),
      Decomposition.says_completed task members⟩
  · intro h
    exact finish_ok_iff.2 (.inr ⟨readDecomposition_eq_rejected h, fallBack_of_fallbacks? hrecord⟩)

/-- A reply with a number for a trigger, a list with a hole, a single source and a member that is not known. -/
def scatteredReply : String :=
  "\x7b\"trigger\": 9.5, \"outputs\": [null, \x7b\x7d], \"dataSources\": \"mail\", \"note\": NaN\x7d"

open scoped Limits in
/-- All of it is taken for what it says, and the task itself is what is done. -/
theorem taken_apart_scatteredReply :
    ∃ members : Members, Json.read scatteredReply = .ok (.object members) ∧
      ∃ d : Decomposition, decomposition.finish {} "Sort mail" (.value (.object members)) =
          .ok { decomposition := some d } ∧
        d.Says "Sort mail" members := by
  have hread : Json.read scatteredReply = .ok (.object (Json.membersOf [
      ("trigger", .float (.finite false 5348024557502464 (-49))), ("outputs", .array [.null, .object []]),
      ("dataSources", "mail"), ("note", .float .nan)])) :=
    Json.toOption_eq_some.1 (by decide +kernel)
  exact ⟨_, hread, (taken_apart rfl _ _).1 _ rfl (by decide)⟩

open scoped Limits in
/-- An object whose only key is one half of a surrogate pair is not taken apart. -/
theorem not_taken_apart_halfKey :
    ∃ members : Members, Json.read "\x7b\"\\ud800\": 1\x7d" = .ok (.object members) ∧
      ¬∃ d, decomposition.finish {} "Sort mail" (.value (.object members)) = .ok { decomposition := some d } := by
  have hread : Json.read "\x7b\"\\ud800\": 1\x7d" = .ok (.object [([⟨0xd800, by decide⟩], .int 1)]) :=
    Json.toOption_eq_some.1 (by decide +kernel)
  have hrejected : readDecomposition "Sort mail" (.object [([⟨0xd800, by decide⟩], .int 1)]) = .rejected := by
    refine readDecomposition_eq_rejected ?_
    rintro ⟨members, hmembers, hkeys⟩
    obtain rfl := Json.object.inj hmembers
    exact absurd hkeys (by decide)
  have hfinish : decomposition.finish {} "Sort mail" (.value (.object [([⟨0xd800, by decide⟩], .int 1)])) =
      .ok { fallbackStages := some (.ofTexts ["decomposition"]), decomposition := some .empty } :=
    finish_ok_iff.2 (.inr ⟨hrejected, rfl⟩)
  refine ⟨_, hread, ?_⟩
  rintro ⟨d, hd⟩
  cases hfinish.symm.trans hd

end Stage

end Automation
