import Automation.Record

/-!
# Records that are read

A record is read if and only if each of its fields is (`Checked.seq_eq_valid`), and an optional field
is read from the first of its names that is a key, if there is one (`Members.optional_eq_valid`). The
members that an object is written with are found by the names they were given
(`Members.get?_membersOf`), so a field is read from the value it was written with
(`Members.required_of_lookup`). What is read of a field depends on what stands under its names
(`Members.field_congr`); if an object is written with one of the names of each field, the field is found
under it, and if null is left out, nothing is found in its place (`Members.holds_of_mem`).
-/

namespace Automation

variable {α β : Type}

namespace Checked

theorem map_eq_valid {f : α → β} {x : Checked α} {b : β} : f <$> x = valid b ↔ ∃ a, x = valid a ∧ f a = b := by
  change Checked.map f x = valid b ↔ _
  cases x <;> simp [Checked.map]

theorem seq_eq_valid {f : Checked (α → β)} {x : Checked α} {b : β} :
    f <*> x = valid b ↔ ∃ g a, f = valid g ∧ x = valid a ∧ g a = b := by
  change Checked.seq f x = valid b ↔ _
  cases f <;> cases x <;> simp [Checked.seq]

theorem inField_eq_valid {name : String} {x : Checked α} {a : α} : x.inField name = valid a ↔ x = valid a := by
  cases x <;> simp [inField]

theorem toOption_eq_some {x : Checked α} {a : α} : x.toOption = some a ↔ x = valid a := by
  cases x <;> simp [toOption]

theorem leaf_eq_valid {read : Json → Option α} {value : Json} {a : α} :
    leaf read value = valid a ↔ read value = some a := by
  unfold leaf
  cases read value <;> simp

/-- Items are read if each of them is read from what it is written as. -/
theorem items_map {read : Json → Checked β} {encode : α → Json} {f : α → β} {items : List α}
    (h : ∀ a ∈ items, read (encode a) = valid (f a)) :
    Checked.items read (items.map encode) = valid (items.map f) := by
  induction items with
  | nil => rfl
  | cons a rest ih =>
    rw [List.forall_mem_cons] at h
    rw [List.map_cons, Checked.items, h.1, ih h.2]
    rfl

/-- A table is read if each of its values is read from what it is written as. -/
theorem table_map {read : Json → Checked α} {encode : α → Json} {entries : List (Text × α)}
    (h : ∀ entry ∈ entries, read (encode entry.2) = valid entry.2) :
    Checked.table read (entries.map fun entry => (entry.1, encode entry.2)) = valid entries := by
  induction entries with
  | nil => rfl
  | cons entry rest ih =>
    rw [List.forall_mem_cons] at h
    rw [List.map_cons, Checked.table, h.1, ih h.2]
    rfl

end Checked

/-- Only what is missing is written as null. -/
theorem Json.eq_none_of_ofOption {encode : α → Json} {a : Option α} (hencode : ∀ a, encode a ≠ .null)
    (h : ofOption encode a = .null) : none = a := by
  cases a with
  | none => rfl
  | some a => exact absurd h (hencode a)

namespace Members

theorem get?_cons (k : Text) (v : Json) (rest : Members) (key : Text) :
    get? ((k, v) :: rest) key = if key = k then some v else get? rest key := by
  rw [get?, List.lookup_cons]
  by_cases hkey : key = k
  · simp [hkey]
  · rw [beq_false_of_ne hkey, if_neg hkey]
    rfl

theorem get?_put (members : Members) (key : Text) (value : Json) (other : Text) :
    (members.put key value).get? other = if other = key then some value else members.get? other := by
  induction members with
  | nil => exact get?_cons key value [] other
  | cons member rest ih =>
    obtain ⟨k, v⟩ := member
    by_cases hk : k = key
    · rw [put, if_pos hk, get?_cons, get?_cons, hk]
      split <;> rfl
    · rw [put, if_neg hk, get?_cons, get?_cons, ih]
      by_cases hother : other = k <;> simp [hother, hk]

theorem without_cons (key : Text) (value : Json) (rest : Members) (keys : List Text) :
    without ((key, value) :: rest) keys = if key ∈ keys then without rest keys else (key, value) :: without rest keys := by
  by_cases h : key ∈ keys <;> simp [without, h]

theorem get?_without (members : Members) (keys : List Text) (key : Text) :
    (members.without keys).get? key = if key ∈ keys then none else members.get? key := by
  induction members with
  | nil => simp [without, get?]
  | cons member rest ih =>
    obtain ⟨k, v⟩ := member
    rw [without_cons]
    by_cases hk : k ∈ keys
    · rw [if_pos hk, ih, get?_cons]
      by_cases hkey : key = k <;> simp [hkey, hk]
    · rw [if_neg hk, get?_cons, get?_cons, ih]
      by_cases hkey : key = k <;> simp [hkey, hk]

theorem named_congr {members others : Members} {names : List String}
    (h : ∀ name ∈ names, members.get? name = others.get? name) : members.named names = others.named names := by
  induction names with
  | nil => rfl
  | cons name names ih =>
    rw [List.forall_mem_cons] at h
    have hrest := ih h.2
    unfold named at hrest ⊢
    rw [List.findSome?_cons, List.findSome?_cons, h.1, hrest]

/-- A field is read from what stands under its names. -/
theorem field_congr {members others : Members} {names : List String} (missing : Checked α) (read : Json → Checked α)
    (h : ∀ name ∈ names, members.get? name = others.get? name) :
    members.field names missing read = others.field names missing read := by
  rw [field, field, named_congr h]

theorem get?_membersOf (fields : List (String × Json)) (name : String) :
    get? (Json.membersOf fields) name = fields.lookup name := by
  induction fields with
  | nil => rfl
  | cons field fields ih =>
    obtain ⟨key, value⟩ := field
    have hkey : ((name : Text) == (key : Text)) = (name == key) := by
      rw [Bool.eq_iff_iff, beq_iff_eq, beq_iff_eq]
      exact Text.ofString_inj
    change List.lookup (name : Text) ((.ofString key, value) :: Json.membersOf fields) = _
    rw [List.lookup_cons, List.lookup_cons, hkey, ← ih]
    rfl

/-- Different names are different keys. -/
theorem nodup_keys_membersOf {fields : List (String × Json)} (h : (fields.map Prod.fst).Nodup) :
    (keys (Json.membersOf fields)).Nodup := by
  have hkeys : keys (Json.membersOf fields) = (fields.map Prod.fst).map Text.ofString := by
    simp [Json.membersOf, keys]
  rw [hkeys]
  exact List.Pairwise.map Text.ofString (fun _ _ hne heq => hne (Text.ofString_inj.1 heq)) h

section Fields

variable {fields : List (String × Json)} {name : String} {value : Json} {read : Json → Checked α} {a missing : α}

theorem named_membersOf (h : fields.lookup name = some value) :
    named (Json.membersOf fields) [name] = some (name, value) := by
  simp [named, get?_membersOf, h]

/-- A field is read from the value it was given. -/
theorem required_of_lookup (h : fields.lookup name = some value) (hread : read value = .valid a) :
    required (Json.membersOf fields) [name] read = .valid a := by
  rw [required, field, named_membersOf h]
  exact Checked.inField_eq_valid.2 hread

theorem optional_of_lookup (h : fields.lookup name = some value) (hread : read value = .valid a) :
    optional (Json.membersOf fields) [name] missing read = .valid a := by
  rw [optional, field, named_membersOf h]
  exact Checked.inField_eq_valid.2 hread

/-- A field that was left out means what a missing one does. -/
theorem optional_of_lookup_eq_none (h : fields.lookup name = none) :
    optional (Json.membersOf fields) [name] missing read = .valid missing := by
  simp [optional, field, named, get?_membersOf, h]

end Fields

theorem optional_eq_valid {members : Members} {names : List String} {missing a : α} {read : Json → Checked α} :
    members.optional names missing read = .valid a ↔
      members.named names = none ∧ missing = a ∨
        ∃ name value, members.named names = some (name, value) ∧ read value = .valid a := by
  unfold optional field
  cases members.named names with
  | none => simp
  | some found =>
    obtain ⟨name, value⟩ := found
    rw [Checked.inField_eq_valid]
    exact ⟨fun h => .inr ⟨name, value, rfl, h⟩, fun h => by
      rcases h with ⟨⟨⟩, -⟩ | ⟨_, _, ⟨rfl⟩, h⟩
      exact h⟩

theorem required_eq_valid {members : Members} {names : List String} {a : α} {read : Json → Checked α} :
    members.required names read = .valid a ↔
      ∃ name value, members.named names = some (name, value) ∧ read value = .valid a := by
  unfold required field
  cases members.named names with
  | none => simp
  | some found =>
    obtain ⟨name, value⟩ := found
    rw [Checked.inField_eq_valid]
    constructor
    · exact fun h => ⟨name, value, rfl, h⟩
    · rintro ⟨_, _, ⟨rfl⟩, h⟩
      exact h

/-! ### Fields of several names -/

/-- A value is what is found under some names, where nothing means null. -/
def Holds (members : Members) (names : List String) (value : Json) : Prop :=
  (∃ name, members.named names = some (name, value)) ∨ members.named names = none ∧ value = .null

section Holds

variable {members : Members} {names : List String} {value : Json} {a missing : α} {read : Json → Checked α}

/-- A field that may be missing is read from the value it holds. -/
theorem optional_of_holds (h : members.Holds names value) (hread : read value = .valid a)
    (hnull : value = .null → missing = a) : members.optional names missing read = .valid a := by
  rcases h with ⟨name, hname⟩ | ⟨hnone, hvalue⟩
  · exact optional_eq_valid.2 (.inr ⟨name, value, hname, hread⟩)
  · exact optional_eq_valid.2 (.inl ⟨hnone, hnull hvalue⟩)

/-- A field that must be there is read from the value it holds. -/
theorem required_of_holds (h : members.Holds names value) (hread : read value = .valid a) (hnull : value ≠ .null) :
    members.required names read = .valid a := by
  rcases h with ⟨name, hname⟩ | ⟨-, hvalue⟩
  · exact required_eq_valid.2 ⟨name, value, hname, hread⟩
  · exact absurd hvalue hnull

/-- The only one of some names that is a key is the one that is found. -/
theorem named_of_only {name : String} (hname : name ∈ names) (hvalue : members.get? name = some value)
    (honly : ∀ other ∈ names, other ≠ name → members.get? other = none) :
    members.named names = some (name, value) := by
  induction names with
  | nil => cases hname
  | cons first names ih =>
    rw [List.forall_mem_cons] at honly
    unfold named at ih ⊢
    rw [List.findSome?_cons]
    by_cases hfirst : first = name
    · rw [hfirst, hvalue]
      rfl
    · have hrest : name ∈ names := (List.mem_cons.1 hname).resolve_left (Ne.symm hfirst)
      rw [honly.1 hfirst]
      exact ih hrest honly.2

theorem named_eq_none (h : ∀ name ∈ names, members.get? name = none) : members.named names = none :=
  List.findSome?_eq_none_iff.2 fun name hname => by rw [h name hname]; rfl

/-- The fields of a table, each under a chosen name; some of those that are null may be left out. -/
def chosen (table : List (List String × Json)) (choose : List String → String) (keep : Json → Bool) :
    List (String × Json) :=
  (table.map fun (names, value) => (choose names, value)).filter fun (_, value) => keep value

variable {table : List (List String × Json)} {choose : List String → String} {keep : Json → Bool}

theorem get?_chosen_eq_none {name : String} (hchoose : ∀ field ∈ table, choose field.1 ∈ field.1)
    (h : ∀ field ∈ table, name ∉ field.1) : get? (Json.membersOf (chosen table choose keep)) name = none := by
  rw [get?_membersOf, List.lookup_eq_none_iff]
  intro member hmember
  obtain ⟨field, hfield, rfl⟩ := List.mem_map.1 (List.mem_filter.1 hmember).1
  refine bne_iff_ne.2 fun heq => h field hfield ?_
  rw [heq]
  exact hchoose field hfield

theorem get?_chosen_cons {names : List String} {value : Json} (name : String) :
    get? (Json.membersOf (chosen ((names, value) :: table) choose keep)) name =
      if name = choose names ∧ keep value = true then some value
      else get? (Json.membersOf (chosen table choose keep)) name := by
  simp only [get?_membersOf, chosen, List.map_cons, List.filter_cons]
  by_cases hkeep : keep value = true
  · by_cases hname : name = choose names
    · simp [hkeep, hname]
    · have hne : (name == choose names) = false := beq_false_of_ne hname
      simp [hkeep, hname, hne, List.lookup_cons]
  · simp [hkeep]

/-- Each field of a table is found under its names, if no two fields share a name. -/
theorem holds_of_mem (hnodup : (table.flatMap Prod.fst).Nodup) (hchoose : ∀ field ∈ table, choose field.1 ∈ field.1)
    (hkeep : ∀ value, keep value = false → value = .null) (h : (names, value) ∈ table) :
    Holds (Json.membersOf (chosen table choose keep)) names value := by
  induction table with
  | nil => cases h
  | cons field table ih =>
    obtain ⟨first, v⟩ := field
    rw [List.flatMap_cons, List.nodup_append] at hnodup
    rw [List.forall_mem_cons] at hchoose
    rcases List.mem_cons.1 h with heq | hrest
    · obtain ⟨rfl, rfl⟩ := Prod.mk.inj heq
      have hother : ∀ name ∈ names, get? (Json.membersOf (chosen table choose keep)) name = none := by
        intro name hname
        refine get?_chosen_eq_none hchoose.2 fun field hfield hmem => ?_
        exact hnodup.2.2 name hname name (List.mem_flatMap.2 ⟨field, hfield, hmem⟩) rfl
      cases hvalue : keep value with
      | true =>
        refine .inl ⟨choose names, named_of_only hchoose.1 ?_ fun name hname hne => ?_⟩
        · rw [get?_chosen_cons, if_pos ⟨rfl, hvalue⟩]
        · rw [get?_chosen_cons, if_neg fun hboth => hne hboth.1, hother name hname]
      | false =>
        refine .inr ⟨named_eq_none fun name hname => ?_, hkeep value hvalue⟩
        rw [get?_chosen_cons, if_neg fun hboth => by simp [hvalue] at hboth, hother name hname]
    · have hsame : named (Json.membersOf (chosen ((first, v) :: table) choose keep)) names =
          named (Json.membersOf (chosen table choose keep)) names := by
        refine named_congr fun name hname => ?_
        rw [get?_chosen_cons, if_neg]
        rintro ⟨rfl, -⟩
        exact hnodup.2.2 _ hchoose.1 _ (List.mem_flatMap.2 ⟨_, hrest, hname⟩) rfl
      unfold Holds
      rw [hsame]
      exact ih hnodup.2.1 hchoose.2 hrest

end Holds

end Members

end Automation
