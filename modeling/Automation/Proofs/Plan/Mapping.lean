import Automation.Proofs.Plan.Decomposition

/-!
# Entries of a mapping are read on their own

An entry is read field by field (`MappedStep.check_eq_valid`), and all that is added to what was read is
whether the type of node is in the catalog. Its own word on that is looked at only for being a truth
value (`readEntry_known`). Entries that cannot be read are passed over, so that a list is mapped entry by
entry (`mapsTo_iff`).

Main statement: `mapsEntries_newMapping`.
-/

namespace Automation

variable {c : Catalog} {members others : Members} {key : Text} {keys names : List Text} {value v : Json} {m : MappedStep}

/-! ### Members that are left out -/

namespace Members

theorem without_put (h : key ∈ names) : (members.put key value).without names = members.without names := by
  induction members with
  | nil => rw [put, without_cons, if_pos h]
  | cons member rest ih =>
    obtain ⟨k, u⟩ := member
    rw [put]
    split
    · rename_i hk
      rw [without_cons, without_cons, hk, if_pos h, if_pos h]
    · rw [without_cons, without_cons, ih]

theorem without_without (h : keys ⊆ names) : (members.without keys).without names = members.without names := by
  rw [without, without, without, List.filter_filter]
  refine List.filter_congr fun member _ => ?_
  by_cases hmem : member.1 ∈ names
  · simp [hmem]
  · simp [hmem, mt (@h member.1) hmem]

end Members

/-! ### Entries -/

namespace MappedStep

/-- A mapped step holds what the members of an object say, field by field. -/
structure IsReadFrom (m : MappedStep) (members : Members) : Prop where
  /-- Its number. -/
  step : members.optional ["step"] none (.leaf number?) = .valid m.step
  /-- What the piece was called. -/
  originalAction : members.optional ["originalAction"] [] Json.trimmedText = .valid m.originalAction
  /-- The type of node. -/
  nodeType : members.optional ["nodeType"] [] Json.trimmedText = .valid m.nodeType
  /-- A name for the node. -/
  nodeName : members.optional ["nodeName"] [] Json.trimmedText = .valid m.nodeName
  /-- Parameters of the node. -/
  parameters : members.optional ["parameters"] [] readObject = .valid m.parameters
  /-- The credentials it needs. -/
  credentials :
    members.optional ["credentials"] [] (.leaf fun value => some (credentialsOf value)) = .valid m.credentials
  /-- How data is changed on the way. -/
  dataTransformation : members.optional ["dataTransformation"] .null (.leaf some) = .valid m.dataTransformation
  /-- Whether the type of node is said to be known. -/
  known : members.optional ["known"] false (.leaf Json.flag?) = .valid m.known
  /-- Members beside these. -/
  others : members.others fieldNames = .valid m.others

/-- An object is read if and only if each of its fields is. -/
theorem check_eq_valid : check v = .valid m ↔ ∃ members, v = .object members ∧ m.IsReadFrom members := by
  constructor
  · intro h
    cases v with
    | object members =>
      change ofMembers members = .valid m at h
      simp only [ofMembers, Checked.seq_eq_valid, Checked.map_eq_valid] at h
      obtain ⟨_, _, ⟨_, _, ⟨_, _, ⟨_, _, ⟨_, _, ⟨_, _, ⟨_, _, ⟨_, _, ⟨_, hstep, rfl⟩, haction, rfl⟩, htype, rfl⟩,
        hname, rfl⟩, hparameters, rfl⟩, hcredentials, rfl⟩, hdata, rfl⟩, hknown, rfl⟩, hothers, rfl⟩ := h
      exact ⟨members, rfl, hstep, haction, htype, hname, hparameters, hcredentials, hdata, hknown, hothers⟩
    | _ => cases h
  · rintro ⟨members, rfl, h⟩
    show ofMembers members = _
    rw [ofMembers, h.step, h.originalAction, h.nodeType, h.nodeName, h.parameters, h.credentials,
      h.dataTransformation, h.known, h.others]
    rfl

/-- The type of node that an entry names, without the blanks around it. -/
def namedType (members : Members) : Text :=
  ((members.get? "nodeType").map fun value => value.asText.trim).getD []

theorem IsReadFrom.nodeType_eq (h : m.IsReadFrom members) : m.nodeType = namedType members := by
  have hread : members.optional ["nodeType"] [] Json.trimmedText = .valid (namedType members) :=
    Members.optional_total fun value => value.asText.trim
  exact Checked.valid.inj (h.nodeType.symm.trans hread)

/-- What is said of a type of node being known can be replaced. -/
theorem IsReadFrom.replace_known {flag : Bool} (h : m.IsReadFrom members)
    (hsame : ∀ name : Text, name ≠ "known" → members.get? name = others.get? name)
    (hothers : members.without fieldNames = others.without fieldNames)
    (hflag : others.optional ["known"] false (.leaf Json.flag?) = .valid flag) :
    ({ m with known := flag } : MappedStep).IsReadFrom others := by
  have hfield : ∀ {α : Type} (name : String) (missing : α) (read : Json → Checked α), (name : Text) ≠ "known" →
      others.optional [name] missing read = members.optional [name] missing read := by
    intro α name missing read hname
    refine Members.field_congr _ _ fun other hother => ?_
    rw [List.mem_singleton.1 hother]
    exact (hsame _ hname).symm
  refine
    { step := (hfield _ _ _ (by decide)).trans h.step
      originalAction := (hfield _ _ _ (by decide)).trans h.originalAction
      nodeType := (hfield _ _ _ (by decide)).trans h.nodeType
      nodeName := (hfield _ _ _ (by decide)).trans h.nodeName
      parameters := (hfield _ _ _ (by decide)).trans h.parameters
      credentials := (hfield _ _ _ (by decide)).trans h.credentials
      dataTransformation := (hfield _ _ _ (by decide)).trans h.dataTransformation
      known := hflag
      others := ?_ }
  obtain ⟨hkeys, hrest⟩ := Members.others_eq_valid.1 h.others
  rw [Members.others_eq_valid, Members.StringsBeside, ← hothers]
  exact ⟨hkeys, hrest⟩

end MappedStep

namespace Stage

open MappedStep (namedType)

/-- An entry is read with the word of the catalog on its type of node. -/
theorem readEntry_eq_some : readEntry c v = some m ↔
    ∃ members read, v = .object members ∧ MappedStep.check v = .valid read ∧
      m = { read with known := decide (namedType members ∈ c.typeIds) } := by
  have hknown : ∀ {members : Members} {read : MappedStep}, read.IsReadFrom members →
      c.contains read.nodeType = decide (namedType members ∈ c.typeIds) := by
    intro members read h
    rw [Bool.eq_iff_iff, Catalog.contains_eq_true, decide_eq_true_iff, h.nodeType_eq]
  rw [readEntry, Option.map_eq_some_iff]
  simp only [Checked.toOption_eq_some]
  constructor
  · rintro ⟨read, hread, rfl⟩
    obtain ⟨members, rfl, hfields⟩ := MappedStep.check_eq_valid.1 hread
    exact ⟨members, read, rfl, hread, by rw [hknown hfields]⟩
  · rintro ⟨members, read, rfl, hread, rfl⟩
    obtain ⟨_, hmembers, hfields⟩ := MappedStep.check_eq_valid.1 hread
    obtain rfl := Json.object.inj hmembers
    exact ⟨read, hread, by rw [hknown hfields]⟩

theorem readEntry_eq_none : readEntry c v = none ↔ ∀ m, MappedStep.check v ≠ .valid m := by
  rw [readEntry, Option.map_eq_none_iff]
  cases MappedStep.check v <;> simp [Checked.toOption]

/-- Of what an entry says of its type of node being known, nothing is left. -/
theorem readEntry_known {flag : Bool} (h : value.flag? = some flag) :
    readEntry c (.object (members.put "known" value)) = readEntry c (.object (members.without ["known"])) := by
  have hput : (members.put "known" value).optional ["known"] false (.leaf Json.flag?) = .valid flag :=
    Members.optional_eq_valid.2 (.inr ⟨"known", value, by simp [Members.named, Members.get?_put],
      Checked.leaf_eq_valid.2 h⟩)
  have hwithout : (members.without ["known"]).optional ["known"] false (.leaf Json.flag?) = .valid false :=
    Members.optional_eq_valid.2 (.inl ⟨by simp [Members.named, Members.get?_without], rfl⟩)
  have hsame : ∀ name : Text, name ≠ "known" →
      (members.put "known" value).get? name = (members.without ["known"]).get? name := by
    intro name hname
    simp [Members.get?_put, Members.get?_without, hname]
  have hothers : (members.put "known" value).without MappedStep.fieldNames =
      (members.without ["known"]).without MappedStep.fieldNames := by
    rw [Members.without_put (by decide), Members.without_without (by decide)]
  refine Option.ext fun m => ?_
  rw [readEntry, readEntry, Option.map_eq_some_iff, Option.map_eq_some_iff]
  simp only [Checked.toOption_eq_some, MappedStep.check_eq_valid, Json.object.injEq, exists_eq_left']
  constructor
  · rintro ⟨read, hread, rfl⟩
    exact ⟨_, hread.replace_known hsame hothers hwithout, rfl⟩
  · rintro ⟨read, hread, rfl⟩
    exact ⟨_, hread.replace_known (fun name hname => (hsame name hname).symm) hothers.symm hput, rfl⟩

/-! ### Lists of entries -/

/-- Entries are mapped to steps: each that can be read, in order, and known if its type of node is in a
catalog. -/
inductive MapsTo (c : Catalog) : List Json → List MappedStep → Prop where
  /-- Nothing is mapped to nothing. -/
  | nil : MapsTo c [] []
  /-- An entry is read, and its type of node is looked up. -/
  | read {members : Members} {m : MappedStep} {entries : List Json} {steps : List MappedStep} :
    MappedStep.check (.object members) = .valid m → MapsTo c entries steps →
    MapsTo c (.object members :: entries) ({ m with known := decide (namedType members ∈ c.typeIds) } :: steps)
  /-- An entry that cannot be read is passed over. -/
  | passed {entry : Json} {entries : List Json} {steps : List MappedStep} :
    (∀ m, MappedStep.check entry ≠ .valid m) → MapsTo c entries steps → MapsTo c (entry :: entries) steps

theorem mapsTo_iff {entries : List Json} {steps : List MappedStep} :
    MapsTo c entries steps ↔ entries.filterMap (readEntry c) = steps := by
  constructor
  · intro h
    induction h with
    | nil => rfl
    | read hread _ ih =>
      have hentry : readEntry c (.object _) = some _ := readEntry_eq_some.2 ⟨_, _, rfl, hread, rfl⟩
      rw [List.filterMap_cons_some hentry, ih]
    | passed hnone _ ih => rw [List.filterMap_cons_none (readEntry_eq_none.2 hnone), ih]
  · rintro rfl
    induction entries with
    | nil => exact .nil
    | cons entry entries ih =>
      cases hentry : readEntry c entry with
      | none =>
        rw [List.filterMap_cons_none hentry]
        exact .passed (readEntry_eq_none.1 hentry) ih
      | some m =>
        obtain ⟨members, read, rfl, hread, rfl⟩ := readEntry_eq_some.1 hentry
        rw [List.filterMap_cons_some hentry]
        exact .read hread ih

/-- The entries that an object lists: those of a list, and none if there is null or nothing. -/
inductive Lists (members : Members) : List Json → Prop where
  /-- There is a list. -/
  | list {entries : List Json} : members.get? "mappedSteps" = some (.array entries) → Lists members entries
  /-- There is null in its place. -/
  | null : members.get? "mappedSteps" = some .null → Lists members []
  /-- There is nothing in its place. -/
  | missing : members.get? "mappedSteps" = none → Lists members []

theorem entriesOf_eq_some {entries : List Json} : entriesOf members = some entries ↔ Lists members entries := by
  constructor
  · intro h
    unfold entriesOf at h
    split at h
    · rename_i hget
      obtain rfl := Option.some.inj h
      exact .missing hget
    · rename_i hget
      obtain rfl := Option.some.inj h
      exact .null hget
    · rename_i hget
      obtain rfl := Option.some.inj h
      exact .list hget
    · cases h
  · intro h
    cases h with
    | list hget => rw [entriesOf, hget]
    | null hget => rw [entriesOf, hget]
    | missing hget => rw [entriesOf, hget]

/-! ### The stage -/

variable {s : Stage MappingInput TechnicalMapping} {store : Store} {input : MappingInput} {entries : List Json}

/-- A stage that maps the pieces of a task ends well on an object, with given steps as its output. -/
def MapsReply (s : Stage MappingInput TechnicalMapping) (members : Members) (steps : List MappedStep) : Prop :=
  ∀ store input, ∃ m : TechnicalMapping,
    s.finish store input (.value (.object members)) = .ok { store with mapping := some m } ∧ m.mappedSteps = steps ∧
      List.Forall₂ (Itemizes "purpose") (givenItems (members.get? "additionalNodes")) m.additionalNodes

/-- A stage maps the entries of a reply one by one, with a catalog. -/
structure MapsEntries (s : Stage MappingInput TechnicalMapping) (c : Catalog) : Prop where
  /-- An object that lists entries is accepted. Its steps are those of the entries that can be read. -/
  accepted : ∀ (members : Members) (entries : List Json), Lists members entries →
    ∃ steps, s.MapsReply members steps ∧ MapsTo c entries steps
  /-- Two lists of entries behind each other are mapped as each of them is. -/
  joined : ∀ (first second both : Members) (xs ys : List Json) (us vs ws : List MappedStep),
    Lists first xs → Lists second ys → Lists both (xs ++ ys) →
    s.MapsReply first us → s.MapsReply second vs → s.MapsReply both ws → ws = us ++ vs
  /-- What an entry says of its type of node being known makes no difference. -/
  unmarked : ∀ (marked plain members : Members) (xs ys : List Json) (value : Json) (flag : Bool)
      (us vs : List MappedStep), value.flag? = some flag →
    Lists marked (xs ++ .object (members.put "known" value) :: ys) →
    Lists plain (xs ++ .object (members.without ["known"]) :: ys) →
    s.MapsReply marked us → s.MapsReply plain vs → us = vs
  /-- Anything else is declined, which is recorded, and the output says nothing. -/
  declined : ∀ (store : Store) (names : List Json) (input : MappingInput) (v : Json), store.fallbacks? = some names →
    (∀ members entries, v = .object members → ¬Lists members entries) →
    s.finish store input (.value v) = .ok { store.recorded names "mapping" with mapping := some .empty }

theorem mapsReply_of_lists [Limits] {limit : Int} (h : Lists members entries) :
    (mapping c limit).MapsReply members (entries.filterMap (readEntry c)) := by
  intro store input
  have hread : readMapping c (.object members) = .accepted ⟨entries.filterMap (readEntry c),
      itemized "purpose" ((members.get? "additionalNodes").getD .null)⟩ := by
    rw [readMapping, entriesOf_eq_some.2 h]
  refine ⟨_, finish_ok_iff.2 (.inl ⟨_, _, rfl, hread, rfl⟩), rfl, ?_⟩
  · cases members.get? "additionalNodes" with
    | none => exact .nil
    | some value => exact forall₂_itemized "purpose" value

theorem MapsReply.unique {us vs : List MappedStep} (hus : s.MapsReply members us) (hvs : s.MapsReply members vs)
    (store : Store) (input : MappingInput) : us = vs := by
  obtain ⟨m, hm, rfl, -⟩ := hus store input
  obtain ⟨n, hn, rfl, -⟩ := hvs store input
  have hsame := congrArg Store.mapping (Except.ok.inj (hm.symm.trans hn))
  rw [Option.some.inj hsame]

theorem readMapping_eq_rejected (h : ∀ members entries, v = .object members → ¬Lists members entries) :
    readMapping c v = .rejected := by
  unfold readMapping
  split
  · rename_i members
    split
    · rename_i entries hentries
      exact absurd (entriesOf_eq_some.1 hentries) (h members entries rfl)
    · rfl
  · rfl

/-- **Entries are mapped one by one, and what is known is looked up.** Every object that lists entries is
accepted, and each of them that can be read gives a step, whatever stands beside it. A step is known if
and only if its type of node is in the catalog in use. -/
theorem mapsEntries_newMapping [Limits] (c : Catalog) (o : StageOptions) :
    (newMapping c o).MapsEntries c.orBuiltin := by
  have hreply : ∀ {members entries steps}, Lists members entries → (newMapping c o).MapsReply members steps →
      steps = entries.filterMap (readEntry c.orBuiltin) := by
    intro members entries steps hlists hmaps
    exact hmaps.unique (mapsReply_of_lists hlists) {} ⟨[], []⟩
  refine
    { accepted := ?_
      joined := ?_
      unmarked := ?_
      declined := ?_ }
  · intro members entries h
    exact ⟨_, mapsReply_of_lists h, mapsTo_iff.2 rfl⟩
  · intro first second both xs ys us vs ws hfirst hsecond hboth hus hvs hws
    rw [hreply hfirst hus, hreply hsecond hvs, hreply hboth hws, List.filterMap_append]
  · intro marked plain xs ys members value flag us vs hflag hmarked hplain hus hvs
    rw [hreply hmarked hus, hreply hplain hvs, List.filterMap_append, List.filterMap_append, List.filterMap_cons,
      List.filterMap_cons, readEntry_known hflag]
  · intro store names input v hrecord h
    exact finish_ok_iff.2 (.inr ⟨readMapping_eq_rejected h, fallBack_of_fallbacks? hrecord⟩)

end Stage

end Automation
