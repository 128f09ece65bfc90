import Automation.Json.Dump
import Automation.Proofs.Chars.Octets
import Automation.Proofs.Json.Floats

/-!
# Documents that are exchanged

A value survives being written and read if its texts are strings, no key of an object stands in it
twice, and its numbers are read back (`Exchangeable`, `read_write_of_exchangeable`). What is handed to
others is made portable before: that puts null in the place of every number that is not finite, and
changes nothing else of such a value (`Members.portable_eq`), so it changes a value if and only if
there is such a number in it (`portable_eq_self_iff`). Nor does it change whether a value can be written
out (`dumpFault?_portable`), which nothing but too many levels keeps an exchangeable value from
(`Exchangeable.eq_depth_of_dumpFault?`).
-/

namespace Automation

/-- Whether a floating-point number is neither an infinity nor not-a-number. -/
def Binary64.isFinite : Binary64 → Bool
  | finite _ _ _ => true
  | _ => false

namespace Json

/-! ### Parts of values -/

mutual

/-- How many levels of arrays and objects a value has. -/
def levels : Json → Nat
  | array items => itemsLevels items + 1
  | object members => membersLevels members + 1
  | _ => 0

/-- The greatest number of levels of some items. -/
def itemsLevels : List Json → Nat
  | [] => 0
  | item :: rest => max (levels item) (itemsLevels rest)

/-- The greatest number of levels of the values of some members. -/
def membersLevels : List (Text × Json) → Nat
  | [] => 0
  | (_, value) :: rest => max (levels value) (membersLevels rest)

end

mutual

/-- The floating-point numbers of a value, in order. -/
def floats : Json → List Binary64
  | number (.float x) => [x]
  | array items => itemsFloats items
  | object members => membersFloats members
  | _ => []

/-- The floating-point numbers of some items. -/
def itemsFloats : List Json → List Binary64
  | [] => []
  | item :: rest => floats item ++ itemsFloats rest

/-- The floating-point numbers of the values of some members. -/
def membersFloats : List (Text × Json) → List Binary64
  | [] => []
  | (_, value) :: rest => floats value ++ membersFloats rest

end

section Parts

variable {item : Json} {items : List Json} {member : Text × Json} {members : Members}

theorem levels_le_of_mem (h : item ∈ items) : item.levels ≤ itemsLevels items := by
  induction items with
  | nil => cases h
  | cons first rest ih =>
    rcases List.mem_cons.1 h with rfl | h
    · exact Nat.le_max_left _ _
    · exact Nat.le_trans (ih h) (Nat.le_max_right _ _)

theorem levels_le_of_mem_members (h : member ∈ members) : member.2.levels ≤ membersLevels members := by
  induction members with
  | nil => cases h
  | cons first rest ih =>
    rcases List.mem_cons.1 h with rfl | h
    · exact Nat.le_max_left _ _
    · exact Nat.le_trans (ih h) (Nat.le_max_right _ _)

theorem portableItems_eq (items : List Json) : portableItems items = items.map portable := by
  induction items with
  | nil => rfl
  | cons item rest ih => rw [portableItems, ih, List.map_cons]

theorem portableMembers_eq (members : Members) :
    portableMembers members = members.map fun member => (member.1, member.2.portable) := by
  induction members with
  | nil => rfl
  | cons member rest ih => rw [portableMembers, ih, List.map_cons]

theorem keys_portableMembers (members : Members) : Members.keys (portableMembers members) = members.keys := by
  rw [portableMembers_eq, Members.keys, List.map_map]
  rfl

end Parts

/-! ### Portable values -/

mutual

/-- What is portable stays as it is. -/
theorem portable_portable : (v : Json) → v.portable.portable = v.portable
  | null | bool _ | text _ | number (.int _) => rfl
  | number (.float (.finite ..)) | number (.float .nan) | number (.float (.infinite _)) => rfl
  | array items => congrArg array (portableItems_portableItems items)
  | object members => congrArg object (portableMembers_portableMembers members)

theorem portableItems_portableItems :
    (items : List Json) → portableItems (portableItems items) = portableItems items
  | [] => rfl
  | item :: rest => congrArg₂ List.cons (portable_portable item) (portableItems_portableItems rest)

theorem portableMembers_portableMembers :
    (members : List (Text × Json)) → portableMembers (portableMembers members) = portableMembers members
  | [] => rfl
  | (key, value) :: rest =>
    congrArg₂ List.cons (congrArg (key, ·) (portable_portable value)) (portableMembers_portableMembers rest)

end

mutual

/-- Making a value portable changes it if and only if it has a number that is not finite. -/
theorem portable_eq_self_iff : (v : Json) → (v.portable = v ↔ ∀ x ∈ v.floats, x.isFinite)
  | null | bool _ | text _ | number (.int _) => by simp [portable, floats]
  | number (.float x) => by cases x <;> simp [portable, floats, Binary64.isFinite]
  | array items => by rw [portable, floats, array.injEq, portableItems_eq_self_iff items]
  | object members => by rw [portable, floats, object.injEq, portableMembers_eq_self_iff members]

theorem portableItems_eq_self_iff :
    (items : List Json) → (portableItems items = items ↔ ∀ x ∈ itemsFloats items, x.isFinite)
  | [] => by simp [portableItems, itemsFloats]
  | item :: rest => by
    rw [portableItems, itemsFloats, List.cons.injEq, List.forall_mem_append, portable_eq_self_iff item,
      portableItems_eq_self_iff rest]

theorem portableMembers_eq_self_iff :
    (members : List (Text × Json)) →
      (portableMembers members = members ↔ ∀ x ∈ membersFloats members, x.isFinite)
  | [] => by simp [portableMembers, membersFloats]
  | (key, value) :: rest => by
    rw [portableMembers, membersFloats, List.cons.injEq, Prod.mk.injEq, List.forall_mem_append,
      portable_eq_self_iff value, portableMembers_eq_self_iff rest, eq_self, true_and]

end

/-! ### Values that are written out -/

theorem itemsDumpFault?_eq (depth : Nat) (items : List Json) :
    itemsDumpFault? depth items = items.findSome? (dumpFault? depth) := by
  induction items with
  | nil => rfl
  | cons item rest ih =>
    rw [itemsDumpFault?, ih, List.findSome?_cons]
    cases dumpFault? depth item <;> rfl

theorem membersDumpFault?_eq (depth : Nat) (members : Members) :
    membersDumpFault? depth members = members.findSome? fun member =>
      if member.1.isString then dumpFault? depth member.2 else some .notString := by
  induction members with
  | nil => rfl
  | cons member rest ih =>
    rw [membersDumpFault?, ih, List.findSome?_cons]
    cases member.1.isString
    · rfl
    · cases dumpFault? depth member.2 <;> rfl

mutual

/-- A value that is made portable is written out as before. -/
theorem dumpFault?_portable : (v : Json) → (depth : Nat) → v.portable.dumpFault? depth = v.dumpFault? depth
  | null, _ | bool _, _ | text _, _ | number (.int _), _ | number (.float (.finite ..)), _ => rfl
  | number (.float .nan), 0 | number (.float .nan), _ + 1 => rfl
  | number (.float (.infinite _)), 0 | number (.float (.infinite _)), _ + 1 => rfl
  | array _, 0 | object _, 0 => rfl
  | array items, depth + 1 => itemsDumpFault?_portableItems items depth
  | object members, depth + 1 => membersDumpFault?_portableMembers members depth

theorem itemsDumpFault?_portableItems : (items : List Json) → (depth : Nat) →
    itemsDumpFault? depth (portableItems items) = itemsDumpFault? depth items
  | [], _ => rfl
  | item :: rest, depth => by
    rw [portableItems, itemsDumpFault?, itemsDumpFault?, dumpFault?_portable item,
      itemsDumpFault?_portableItems rest]

theorem membersDumpFault?_portableMembers : (members : List (Text × Json)) → (depth : Nat) →
    membersDumpFault? depth (portableMembers members) = membersDumpFault? depth members
  | [], _ => rfl
  | (key, value) :: rest, depth => by
    rw [portableMembers, membersDumpFault?, membersDumpFault?, dumpFault?_portable value,
      membersDumpFault?_portableMembers rest]

end

theorem haveShortIntegers_eq (items : List Json) : haveShortIntegers items = items.all hasShortIntegers := by
  induction items with
  | nil => rfl
  | cons item rest ih => rw [haveShortIntegers, ih, List.all_cons]

theorem membersHaveShortIntegers_eq (members : Members) :
    membersHaveShortIntegers members = members.all fun member => member.2.hasShortIntegers := by
  induction members with
  | nil => rfl
  | cons member rest ih => rw [membersHaveShortIntegers, ih, List.all_cons]

end Json

namespace Members

/-- Members with keys of their own that are strings keep their keys. -/
theorem portable_eq {members : Members} (hkeys : members.keys.Nodup) (hstrings : ∀ m ∈ members, m.1.isString) :
    members.portable = Json.portableMembers members := by
  have hlegible : members.legible = members := by
    refine (List.map_congr_left fun m hm => ?_).trans (List.map_id members)
    exact Prod.ext (Text.legible_of_isString (hstrings m hm)) rfl
  have hnodup : ([] ++ Json.portableMembers members : Members).keys.Nodup := by
    rwa [List.nil_append, Json.keys_portableMembers]
  have hput := Json.putAll_of_nodup hnodup
  rw [portable, hlegible, ← Json.portableMembers_eq, hput, List.nil_append]

/-- What is portable inside of its values may be made so before. -/
theorem portable_portableMembers (members : Members) : portable (Json.portableMembers members) = members.portable := by
  rw [portable, portable, legible, legible, Json.portableMembers_eq, List.map_map, List.map_map, List.map_map]
  refine congrArg (putAll []) (List.map_congr_left fun m _ => ?_)
  exact congrArg (m.1.legible, ·) m.2.portable_portable

end Members

namespace Json

/-! ### Exchangeable values -/

/-- A value that is read back from the document that is written of it. -/
inductive Exchangeable : Json → Prop where
  /-- Null is. -/
  | null : Exchangeable null
  /-- Truth values are. -/
  | bool (b : Bool) : Exchangeable (bool b)
  /-- An integer is if it has no more digits than are read. -/
  | int {n : Int} (h : n.natAbs < Nat.pow 10 Numeral.digitLimit) : Exchangeable (int n)
  /-- A floating-point number is if it is read back from its text. -/
  | float {x : Binary64} (h : FloatReadsBack x) : Exchangeable (float x)
  /-- A text is if it is a string. -/
  | text {t : Text} (h : t.isString) : Exchangeable (text t)
  /-- An array is if its items are. -/
  | array {items : List Json} (h : ∀ item ∈ items, Exchangeable item) : Exchangeable (array items)
  /-- An object is if its keys are strings, all of them different, and its values are. -/
  | object {members : Members} (hkeys : members.keys.Nodup) (hstrings : ∀ m ∈ members, m.1.isString)
      (h : ∀ m ∈ members, Exchangeable m.2) : Exchangeable (object members)

/-- An exchangeable value stays so when it is made portable. -/
theorem Exchangeable.portable {v : Json} (h : v.Exchangeable) : v.portable.Exchangeable := by
  induction h with
  | null => exact .null
  | bool b => exact .bool b
  | int h => exact .int h
  | @float x h =>
    cases x with
    | finite negative m e => exact .float h
    | nan => exact .null
    | infinite negative => exact .null
  | text h => exact .text h
  | array _ ih =>
    rw [Json.portable, portableItems_eq]
    exact .array (List.forall_mem_map.2 ih)
  | @object members hkeys hstrings _ ih =>
    refine .object (by rwa [keys_portableMembers]) ?_ ?_
    · rw [portableMembers_eq]
      exact List.forall_mem_map.2 hstrings
    · rw [portableMembers_eq]
      exact List.forall_mem_map.2 ih

/-- Nothing but too many levels keeps an exchangeable value from being written out. -/
theorem Exchangeable.eq_depth_of_dumpFault? {v : Json} (h : v.Exchangeable) {depth : Nat} {fault : DumpFault}
    (hfault : v.dumpFault? depth = some fault) : fault = .depth := by
  induction h generalizing depth with
  | null | bool | int | float | text =>
    cases depth with
    | zero => exact (Option.some.inj hfault).symm
    | succ => exact nomatch hfault
  | array _ ih =>
    cases depth with
    | zero => exact (Option.some.inj hfault).symm
    | succ depth =>
      rw [dumpFault?, itemsDumpFault?_eq] at hfault
      obtain ⟨item, hitem, hfault⟩ := List.exists_of_findSome?_eq_some hfault
      exact ih item hitem hfault
  | object _ hstrings _ ih =>
    cases depth with
    | zero => exact (Option.some.inj hfault).symm
    | succ depth =>
      rw [dumpFault?, membersDumpFault?_eq] at hfault
      obtain ⟨member, hmember, hfault⟩ := List.exists_of_findSome?_eq_some hfault
      rw [if_pos (hstrings member hmember)] at hfault
      exact ih member hmember hfault

/-- The integers of an exchangeable value are short enough to be written. -/
theorem Exchangeable.hasShortIntegers {v : Json} (h : v.Exchangeable) : v.hasShortIntegers = true := by
  induction h with
  | null | bool | float | text => rfl
  | int h =>
    rw [Json.int, Json.hasShortIntegers, decide_eq_true_iff]
    exact h
  | array _ ih =>
    rw [Json.hasShortIntegers, haveShortIntegers_eq]
    exact List.all_eq_true.2 ih
  | object _ _ _ ih =>
    rw [Json.hasShortIntegers, membersHaveShortIntegers_eq]
    exact List.all_eq_true.2 ih

theorem portable_of_exchangeable {members : Members} (h : (object members).Exchangeable) :
    members.portable = portableMembers members := by
  cases h with
  | object hkeys hstrings _ => exact Members.portable_eq hkeys hstrings

theorem exchangeable_portable {members : Members} (h : (object members).Exchangeable) :
    (object members.portable).Exchangeable := by
  rw [portable_of_exchangeable h]
  exact h.portable

/-- An exchangeable value is read back wherever it stands, if its levels are not too many. -/
theorem readsBack_of_exchangeable {style : Style} (hspaced : style.Spaced) (hfloats : style.PlainFloats) {v : Json}
    (h : v.Exchangeable) {depth : Nat} (hlevels : v.levels ≤ depth) : ReadsBack style depth v := by
  induction h generalizing depth with
  | null => exact readsBack_null
  | bool b => exact readsBack_bool b
  | int h => exact readsBack_int h
  | float h => exact readsBack_float hfloats h
  | text h => exact readsBack_text h
  | @array items _ ih =>
    obtain ⟨depth, rfl⟩ : ∃ d, depth = d + 1 := ⟨depth - 1, by rw [levels] at hlevels; omega⟩
    have hitems := Nat.le_of_succ_le_succ hlevels
    exact readsBack_array hspaced fun item hitem =>
      ih item hitem (Nat.le_trans (levels_le_of_mem hitem) hitems)
  | @object members hkeys hstrings _ ih =>
    obtain ⟨depth, rfl⟩ : ∃ d, depth = d + 1 := ⟨depth - 1, by rw [levels] at hlevels; omega⟩
    have hmembers := Nat.le_of_succ_le_succ hlevels
    exact readsBack_object hspaced (fun m hm =>
      ⟨hstrings m hm, ih m hm (Nat.le_trans (levels_le_of_mem_members hm) hmembers)⟩) hkeys

/-- **An exchangeable document is read back.** -/
theorem read_write_of_exchangeable [Limits] {style : Style} (hspaced : style.Spaced) (hfloats : style.PlainFloats)
    {v : Json} (h : v.Exchangeable) (hlevels : v.levels ≤ Limits.nesting) : read (write style v) = .ok v :=
  read_write (readsBack_of_exchangeable hspaced hfloats h hlevels)

end Json

end Automation
