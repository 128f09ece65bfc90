import Automation.Proofs.Plan.Mapping
import Automation.Proofs.Step.Rereading

/-!
# What was read is read again

Values are read generously, and what comes of it leaves nothing more to be generous about: every reading of a
field finds its own result again, and so do the readings of a step, a mapped step and a decomposition in what
they are written as. Of a mapped step and a decomposition the members that are not known stand behind the
others, and stay what they are (`Members.others_append`).

Main statement: `readsAgain`.
-/

namespace Automation

/-! ### Members behind fields -/

namespace Members

variable {fields : List (String × Json)} {members rest : Members} {names : List Text} {name : String} {value : Json}

theorem get?_append_of_lookup (h : fields.lookup name = some value) :
    get? (Json.membersOf fields ++ rest) name = some value := by
  have hget : get? (Json.membersOf fields) name = some value := (get?_membersOf fields name).trans h
  rw [get?] at hget ⊢
  rw [List.lookup_append, hget, Option.some_or]

/-- A field is found in front of other members. -/
theorem holds_append (h : fields.lookup name = some value) : Holds (Json.membersOf fields ++ rest) [name] value :=
  .inl ⟨name, by rw [named, List.findSome?_singleton, get?_append_of_lookup h]; rfl⟩

theorem without_append_of_known (hnames : ∀ field ∈ fields, (field.1 : Text) ∈ names) :
    without (Json.membersOf fields ++ members.without names) names = members.without names := by
  have hfields : without (Json.membersOf fields) names = [] := by
    rw [without, List.filter_eq_nil_iff]
    intro member hmember
    obtain ⟨field, hfield, rfl⟩ := List.mem_map.1 hmember
    simpa using hnames field hfield
  have hrest : (members.without names).without names = members.without names := without_without (List.Subset.refl _)
  rw [without] at hfields hrest ⊢
  rw [List.filter_append, hfields, hrest, List.nil_append]

/-- Members that are not known are read again behind those that are. -/
theorem others_append (hnames : ∀ field ∈ fields, (field.1 : Text) ∈ names) (h : members.others names = .valid rest) :
    others (Json.membersOf fields ++ rest) names = .valid rest := by
  obtain ⟨hkeys, rfl⟩ := others_eq_valid.1 h
  have hsame : without (Json.membersOf fields ++ members.without names) names = members.without names :=
    without_append_of_known hnames
  refine others_eq_valid.2 ⟨?_, hsame⟩
  rw [StringsBeside, hsame]
  exact hkeys

end Members

/-! ### Objects -/

theorem rereads_readObject : Rereads readObject .object :=
  fun _ _ _ => rfl

theorem itemized_objects (name : String) (items : List Members) :
    itemized name (.array (items.map .object)) = items := by
  rw [itemized, List.filterMap_map]
  exact List.filterMap_some

theorem rereads_readItemized (name : String) :
    Rereads (readItemized name) fun items => .array (items.map .object) :=
  fun _ items _ => congrArg Checked.valid (itemized_objects name items)

/-! ### Mapped steps -/

namespace MappedStep

theorem rereads_number? : Rereads (.leaf number?) (.ofOption .int) := by
  intro _ n _
  cases n <;> rfl

theorem rereads_credentialsOf : Rereads (.leaf fun value => some (credentialsOf value)) .array :=
  fun _ _ _ => rfl

theorem rereads_flag? : Rereads (.leaf Json.flag?) .bool :=
  fun _ _ _ => rfl

theorem rereads_any : Rereads (.leaf some) id :=
  fun _ _ _ => rfl

/-- A mapped step that was read is read again. -/
theorem rereads_toJson : Rereads check toJson := by
  intro value m h
  obtain ⟨members, rfl, hread⟩ := check_eq_valid.1 h
  refine check_eq_valid.2 ⟨_, rfl, ?_⟩
  refine
    { step :=
        Members.optional_reread rereads_number? rfl (Json.eq_none_of_ofOption nofun) hread.step
          (Members.holds_append ?_)
      originalAction :=
        Members.optional_reread rereads_trimmedText rfl nofun hread.originalAction (Members.holds_append ?_)
      nodeType := Members.optional_reread rereads_trimmedText rfl nofun hread.nodeType (Members.holds_append ?_)
      nodeName := Members.optional_reread rereads_trimmedText rfl nofun hread.nodeName (Members.holds_append ?_)
      parameters := Members.optional_reread rereads_readObject rfl nofun hread.parameters (Members.holds_append ?_)
      credentials :=
        Members.optional_reread rereads_credentialsOf rfl nofun hread.credentials (Members.holds_append ?_)
      dataTransformation :=
        Members.optional_reread rereads_any rfl Eq.symm hread.dataTransformation (Members.holds_append ?_)
      known := Members.optional_reread rereads_flag? rfl nofun hread.known (Members.holds_append ?_)
      others := Members.others_append ?_ hread.others }
  all_goals simp [fieldNames, List.lookup_cons]

end MappedStep

/-! ### Decompositions -/

namespace Decomposition

/-- A trigger with a type is taken as it is. -/
theorem triggerOf_triggerOf (value : Json) : triggerOf (.object (triggerOf value)) = triggerOf value := by
  obtain ⟨type, htype, htruthy⟩ := exists_type_triggerOf value
  have hpresent : (Json.object (triggerOf value)).isTruthy = true := by
    cases hvalue : triggerOf value with
    | nil => simp [hvalue, Members.get?] at htype
    | cons member rest => rfl
  generalize triggerOf value = trigger at htype hpresent ⊢
  simp [triggerOf, hpresent, htype, htruthy]

theorem rereads_triggerOf : Rereads (.leaf fun value => some (triggerOf value)) .object := by
  intro value trigger h
  obtain rfl : triggerOf value = trigger := Option.some.inj (Checked.leaf_eq_valid.1 h)
  exact Checked.leaf_eq_valid.2 (congrArg some (triggerOf_triggerOf value))

/-- The fields of a decomposition in a document. -/
def fields (d : Decomposition) : List (String × Json) := [
  ("trigger", .object d.trigger),
  ("dataSources", .array (d.dataSources.map .object)),
  ("processingSteps", .array (d.processingSteps.map .object)),
  ("outputs", .array (d.outputs.map .object)),
  ("specialLogic", .object d.specialLogic)]

theorem toJson_eq (d : Decomposition) : d.toJson = .object (Json.membersOf d.fields ++ d.others) :=
  rfl

/-- The fields of a decomposition say what it does, if its trigger is taken as it is. -/
theorem told_fields (d : Decomposition) (htrigger : triggerOf (.object d.trigger) = d.trigger) (rest : Members) :
    told (Json.membersOf d.fields ++ rest) =
      { d with others := Members.without (Json.membersOf d.fields ++ rest) known } := by
  have hget : ∀ {name : String} {value : Json}, d.fields.lookup name = some value →
      Members.get? (Json.membersOf d.fields ++ rest) name = some value := Members.get?_append_of_lookup
  have hfields : d.fields.lookup "trigger" = some (.object d.trigger) ∧
      d.fields.lookup "dataSources" = some (.array (d.dataSources.map .object)) ∧
      d.fields.lookup "processingSteps" = some (.array (d.processingSteps.map .object)) ∧
      d.fields.lookup "outputs" = some (.array (d.outputs.map .object)) ∧
      d.fields.lookup "specialLogic" = some (.object d.specialLogic) := by
    simp [fields, List.lookup_cons]
  obtain ⟨htold, hsources, hsteps, houtputs, hlogic⟩ := hfields
  rw [told, hget htold, hget hsources, hget hsteps, hget houtputs, hget hlogic]
  simp only [Option.map_some, Option.getD_some, itemized_objects, htrigger]
  rfl

/-- A decomposition that was read is read again. -/
theorem rereads_toJson : Rereads check toJson := by
  intro value d h
  obtain ⟨members, rfl, hkeys, rfl⟩ := check_eq_valid.1 h
  have hknown : ∀ field ∈ (told members).fields, (field.1 : Text) ∈ known := by
    simp [fields, known]
  have hothers : Members.others (Json.membersOf (told members).fields ++ (told members).others) known =
      .valid (told members).others := Members.others_append hknown (Members.others_eq_valid.2 ⟨hkeys, rfl⟩)
  obtain ⟨hstrings, hrest⟩ := Members.others_eq_valid.1 hothers
  have htrigger : triggerOf (.object (told members).trigger) = (told members).trigger := by
    rw [told_trigger, triggerOf_triggerOf]
  refine check_eq_valid.2 ⟨_, toJson_eq (told members), hstrings, ?_⟩
  rw [told_fields _ htrigger, hrest]

end Decomposition

/-! ### All readings -/

/-- Whatever is read of a step, a mapped step or a decomposition is read again, as a whole and field by
field. -/
structure ReadsAgain : Prop where
  /-- A step is. -/
  step : Rereads Step.check Step.toJson
  /-- A step is, without the members it has no value for. -/
  compactStep : Rereads Step.check Step.compact
  /-- A step is, under the longer names, with and without the members it has no value for. -/
  longStep : ∀ sparse, Rereads Step.check (Step.dump true sparse)
  /-- A mapped step is, with the members beside the known ones. -/
  mappedStep : Rereads MappedStep.check MappedStep.toJson
  /-- A decomposition is, with the members beside the known ones. -/
  decomposition : Rereads Decomposition.check Decomposition.toJson
  /-- The number of a step is. -/
  index : Rereads (.leaf Step.index?) fun n => .int n
  /-- The kind of a step is. -/
  kind : Rereads Step.readKind fun kind => kind.name
  /-- A trimmed text is. -/
  trimmedText : Rereads Json.trimmedText .text
  /-- A text that may be missing is. -/
  note : Rereads Step.readNote (.ofOption .text)
  /-- Whether a step is parallelizable is. -/
  parallelizable : Rereads (.leaf Step.flag?) .bool
  /-- The number of a piece of a task is. -/
  number : Rereads (.leaf MappedStep.number?) (.ofOption .int)
  /-- Credentials are. -/
  credentials : Rereads (.leaf fun value => some (MappedStep.credentialsOf value)) .array
  /-- Whether a type of node is said to be known is. -/
  known : Rereads (.leaf Json.flag?) .bool
  /-- Parameters and special logic are. -/
  object : Rereads readObject .object
  /-- Lists of objects are. -/
  itemized : ∀ name, Rereads (readItemized name) fun items => .array (items.map .object)
  /-- A trigger is. -/
  trigger : Rereads (.leaf fun value => some (Decomposition.triggerOf value)) .object

/-- **What was read is read again.** -/
theorem readsAgain : ReadsAgain where
  step := funext Step.dump_eq_toJson ▸ Step.rereads_dump false false
  compactStep := funext Step.dump_eq_compact ▸ Step.rereads_dump false true
  longStep := Step.rereads_dump true
  mappedStep := MappedStep.rereads_toJson
  decomposition := Decomposition.rereads_toJson
  index := Step.rereads_index?
  kind := Step.rereads_readKind
  trimmedText := rereads_trimmedText
  note := Step.rereads_readNote
  parallelizable := Step.rereads_flag?
  number := MappedStep.rereads_number?
  credentials := MappedStep.rereads_credentialsOf
  known := MappedStep.rereads_flag?
  object := rereads_readObject
  itemized := rereads_readItemized
  trigger := Decomposition.rereads_triggerOf

/-- A step with a numeral for its number, a loose spelling of its kind, and other values in the place of
texts. -/
def untidyStep : Json :=
  .ofFields [("index", "2"), ("type", "error_handler"), ("description", .ofTexts ["Send mail"]),
    ("rationale", .bool true), ("parallelizable", "Yes ")]

/-- An entry with a number inside of a text, an object for its credentials and a member that is not known. -/
def untidyEntry : Json :=
  .ofFields [("step", "Step 2"), ("nodeType", " set "), ("credentials", .ofFields [("mail", .int 1)]),
    ("parameters", .array []), ("note", .float .nan)]

/-- A decomposition with a number for its trigger, a list with holes and a member that is not known. -/
def untidyPlan : Json :=
  .ofFields [("trigger", .int 9), ("outputs", .array [.null, .bool true, .object []]), ("specialLogic", "none"),
    ("note", .null)]

/-- All of them are read, and what was read is read again. -/
theorem readsAgain_untidy :
    (∃ s, Step.check untidyStep = .valid s ∧ Step.check s.compact = .valid s ∧
      Step.check (s.dump true true) = .valid s) ∧
      (∃ m, MappedStep.check untidyEntry = .valid m ∧ MappedStep.check m.toJson = .valid m) ∧
      ∃ d, Decomposition.check untidyPlan = .valid d ∧ Decomposition.check d.toJson = .valid d := by
  have hstep : Step.check untidyStep =
      .valid ⟨2, .errorHandler, "[\"Send mail\"]", [], [], some "True", true, none⟩ := by decide +kernel
  have hentry : MappedStep.check untidyEntry =
      .valid ⟨some 2, [], "set", [], [], ["mail"], .null, false, [("note", .float .nan)]⟩ := by decide +kernel
  have hplan : Decomposition.check untidyPlan =
      .valid ⟨[("type", "9")], [], [], [[("name", "True")], []], [], [("note", .null)]⟩ := by decide +kernel
  exact ⟨⟨_, hstep, readsAgain.compactStep _ _ hstep, readsAgain.longStep true _ _ hstep⟩,
    ⟨_, hentry, readsAgain.mappedStep _ _ hentry⟩, _, hplan, readsAgain.decomposition _ _ hplan⟩

end Automation
