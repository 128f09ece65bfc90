import Automation.Proofs.Record
import Automation.Proofs.Step.Order
import Automation.Proofs.Step.Reading
import Mathlib.Data.List.DropRight

/-!
# Steps are read back

Steps that are shown as a document are read from it again (`readList_shown`), if their texts have no
blanks around them and they are numbered in their order. Steps that were read once have no blanks
around their texts (`trimmed_of_check`), because what was trimmed stays as it is. Each field is found
whichever of its names a step is written under, and whether or not null is written (`holds_written`).
-/

namespace Automation.Text

/-- What was trimmed once stays as it is. -/
theorem trim_trim (t : Text) : t.trim.trim = t.trim := by
  have hstart : trimStart t.trim = t.trim := by
    cases htrim : t.trim with
    | nil => rfl
    | cons c u =>
      -- the end is cut off last, so the text begins as it did then
      obtain ⟨v, hv⟩ : t.trim <+: t.trimStart := List.rdropWhile_prefix _ _
      have hhead := List.head?_dropWhile_not Chars.isBlank t
      rw [← trimStart, ← hv, htrim] at hhead
      rw [trimStart, List.dropWhile_cons_of_neg (by simpa using hhead)]
  have hend : trimEnd t.trim = t.trim := List.rdropWhile_idempotent _ _
  rw [trim, hstart, hend]

end Automation.Text

namespace Automation.Step

variable {s : Step} {steps : List Step} {members : Members} {names : List String}

/-! ### Trimmed steps -/

/-- A step without blanks around its texts. -/
structure Trimmed (s : Step) : Prop where
  /-- What is done has none around it. -/
  description : s.description.trim = s.description
  /-- The service has none around it. -/
  service : s.service.trim = s.service
  /-- The type of node has none around it. -/
  nodeType : s.nodeType.trim = s.nodeType

/-- A step is read if and only if each of its fields is. -/
theorem checkWith_eq_valid {index : Checked Nat} {kind : Checked StepKind} :
    checkWith index kind members = .valid s ↔
      index = .valid s.index ∧ kind = .valid s.kind ∧
        members.optional ["description"] [] Json.trimmedText = .valid s.description ∧
        members.optional ["service", "service_label"] [] Json.trimmedText = .valid s.service ∧
        members.optional ["nodeType", "node_type_id"] [] Json.trimmedText = .valid s.nodeType ∧
        members.optional ["rationale"] none readNote = .valid s.rationale ∧
        members.optional ["parallelizable"] false (.leaf flag?) = .valid s.parallelizable ∧
        members.optional ["errorHandling", "error_handling_note"] none readNote = .valid s.errorHandling := by
  constructor
  · intro h
    simp only [checkWith, Checked.seq_eq_valid, Checked.map_eq_valid] at h
    obtain ⟨_, _, ⟨_, _, ⟨_, _, ⟨_, _, ⟨_, _, ⟨_, _, ⟨_, _, ⟨_, hindex, rfl⟩, hkind, rfl⟩, hdescription, rfl⟩,
      hservice, rfl⟩, hnodeType, rfl⟩, hrationale, rfl⟩, hparallelizable, rfl⟩, herrorHandling, rfl⟩ := h
    exact ⟨hindex, hkind, hdescription, hservice, hnodeType, hrationale, hparallelizable, herrorHandling⟩
  · rintro ⟨hindex, hkind, hdescription, hservice, hnodeType, hrationale, hparallelizable, herrorHandling⟩
    rw [checkWith, hindex, hkind, hdescription, hservice, hnodeType, hrationale, hparallelizable, herrorHandling]
    rfl

theorem trim_of_optional {t : Text} (h : members.optional names [] Json.trimmedText = .valid t) : t.trim = t := by
  rcases Members.optional_eq_valid.1 h with ⟨-, rfl⟩ | ⟨name, value, -, hvalue⟩
  · rfl
  · obtain rfl : value.asText.trim = t := Option.some.inj (Checked.leaf_eq_valid.1 hvalue)
    exact Text.trim_trim _

/-- A step that was read from a document is trimmed. -/
theorem trimmed_of_check {document : Json} (h : check document = .valid s) : s.Trimmed := by
  cases document with
  | object members =>
    obtain ⟨-, -, hdescription, hservice, hnodeType, -⟩ := checkWith_eq_valid.1 h
    exact ⟨trim_of_optional hdescription, trim_of_optional hservice, trim_of_optional hnodeType⟩
  | _ => cases h

/-! ### Members -/

theorem ofText_name (kind : StepKind) : StepKind.ofText kind.name = kind := by
  cases kind <;> decide +kernel

/-- The fields of a step, each with the names it goes by. -/
def namedFields (s : Step) : List (List String × Json) := [
  (["step", "index"], .int s.index),
  (["type", "kind"], s.kind.name),
  (["description"], s.description),
  (["service", "service_label"], s.service),
  (["nodeType", "node_type_id"], s.nodeType),
  (["rationale"], .ofOption .text s.rationale),
  (["parallelizable"], .bool s.parallelizable),
  (["errorHandling", "error_handling_note"], .ofOption .text s.errorHandling)]

/-- The name that a field is written under: the one used in documents, or a longer one. -/
def nameOf (long : Bool) (names : List String) : String :=
  if long then names.getLastD "" else names.headD ""

/-- The fields of a step under one of both names, with or without those that it has no value for. -/
def written (long sparse : Bool) (s : Step) : List (String × Json) :=
  Members.chosen s.namedFields (nameOf long) fun value => !sparse || value != .null

/-- A step as a document, under one of both names of each field. -/
def dump (long sparse : Bool) (s : Step) : Json :=
  .ofFields (s.written long sparse)

theorem dump_eq_toJson (s : Step) : s.dump false false = s.toJson := by
  simp [dump, written, Members.chosen, namedFields, nameOf, toJson, fields]

theorem dump_eq_compact (s : Step) : s.dump false true = s.compact := by
  simp [dump, written, Members.chosen, namedFields, nameOf, compact, fields]

/-- A field is found under its names, whichever of them it was written under. -/
theorem holds_written {long sparse : Bool} {value : Json} (h : (names, value) ∈ s.namedFields) :
    Members.Holds (Json.membersOf (s.written long sparse)) names value := by
  refine Members.holds_of_mem ?_ ?_ ?_ h
  · simp [namedFields]
  · cases long <;> simp [namedFields, nameOf]
  · simp

/-- The fields that a step has a value for. -/
def shownFields (s : Step) : List (String × Json) :=
  s.fields.filter fun (_, value) => value != .null

/-- The members that are shown of a step. -/
def shownMembers (s : Step) : Members :=
  Json.membersOf s.shownFields

theorem compact_eq (s : Step) : s.compact = .object s.shownMembers :=
  rfl

theorem nodup_keys_fields (s : Step) : (s.fields.map Prod.fst).Nodup := by
  simp [fields]

theorem holds_shownMembers {value : Json} (h : (names, value) ∈ s.namedFields) :
    s.shownMembers.Holds names value := by
  have hwritten : Members.Holds (Json.membersOf (s.written false true)) names value := holds_written h
  have hfields : Json.membersOf (s.written false true) = s.shownMembers :=
    Json.object.inj (s.dump_eq_compact.trans s.compact_eq)
  rwa [hfields] at hwritten

/-! ### Reading back -/

theorem readKind_name (kind : StepKind) : readKind (.text kind.name) = .valid kind :=
  Checked.leaf_eq_valid.2 (congrArg some (ofText_name kind))

theorem readNote_ofOption (note : Option Text) : readNote (.ofOption .text note) = .valid note := by
  cases note <;> rfl

/-- The members that are shown of a step are read as the step, but for its number. -/
theorem readEntry_shownMembers (h : s.Trimmed) (place : Nat) :
    readEntry place s.shownMembers = some { s with index := place } := by
  have htext : ∀ {t : Text}, t.trim = t → Json.trimmedText (.text t) = .valid t :=
    fun ht => Checked.leaf_eq_valid.2 (congrArg some ht)
  have hflag : Checked.leaf flag? (.bool s.parallelizable) = .valid s.parallelizable := rfl
  have hkind : s.shownMembers.optional ["type", "kind"] .process readKind = .valid s.kind :=
    Members.optional_of_holds (holds_shownMembers (by simp [namedFields])) (readKind_name _) nofun
  have hcheck : checkWith (.valid place) (s.shownMembers.optional ["type", "kind"] .process readKind)
      s.shownMembers = .valid { s with index := place } :=
    checkWith_eq_valid.2 ⟨rfl, hkind,
      Members.optional_of_holds (holds_shownMembers (by simp [namedFields])) (htext h.description) nofun,
      Members.optional_of_holds (holds_shownMembers (by simp [namedFields])) (htext h.service) nofun,
      Members.optional_of_holds (holds_shownMembers (by simp [namedFields])) (htext h.nodeType) nofun,
      Members.optional_of_holds (holds_shownMembers (by simp [namedFields])) (readNote_ofOption _)
        (Json.eq_none_of_ofOption nofun),
      Members.optional_of_holds (holds_shownMembers (by simp [namedFields])) hflag nofun,
      Members.optional_of_holds (holds_shownMembers (by simp [namedFields])) (readNote_ofOption _)
        (Json.eq_none_of_ofOption nofun)⟩
  rw [readEntry, hcheck]
  rfl

theorem named_step_shownMembers (s : Step) :
    ∃ name, s.shownMembers.named ["step", "index"] = some (name, .int s.index) := by
  rcases holds_shownMembers (show (["step", "index"], .int s.index) ∈ s.namedFields by simp [namedFields]) with
    h | ⟨-, hnull⟩
  · exact h
  · cases hnull

/-- What is shown of a step is read as the step, under its number. -/
theorem numbered?_compact (h : s.Trimmed) (place : Nat) :
    numbered? place s.compact = some ((s.index : Int), { s with index := place }) := by
  have hdeclared : Declared.ofMembers s.shownMembers = .number s.index := by
    obtain ⟨name, hname⟩ := s.named_step_shownMembers
    rw [Declared.ofMembers, hname]
    rfl
  rw [compact_eq, numbered?, hdeclared, readEntry_shownMembers h]
  rfl

theorem not_isUnbounded_compact (s : Step) : ¬IsUnbounded s.compact := by
  rintro ⟨members, name, negative, hobject, hnamed⟩
  obtain rfl : s.shownMembers = members := Json.object.inj hobject
  obtain ⟨_, hname⟩ := s.named_step_shownMembers
  cases hname.symm.trans hnamed

/-- What is shown of some steps. -/
def shown (steps : List Step) : Json :=
  .ofFields [("steps", .array (steps.map compact))]

theorem listOf_shown (steps : List Step) : listOf (shown steps) = steps.map compact := by
  have hget : Members.get? (Json.membersOf [("steps", .array (steps.map compact))]) "steps" =
      some (.array (steps.map compact)) := by
    rw [Members.get?_membersOf]
    rfl
  rw [shown, Json.ofFields, listOf, hget]

/-- Each item that is shown of steps in order is read under its place. -/
theorem filterMap_numbered?_compact {place : Nat} (htrimmed : ∀ s ∈ steps, s.Trimmed)
    (hindex : steps.map index = List.range' place steps.length) :
    (((steps.map compact).zipIdx place).filterMap fun (item, place) => numbered? place item) =
      steps.map fun s => ((s.index : Int), s) := by
  induction steps generalizing place with
  | nil => rfl
  | cons s steps ih =>
    rw [List.forall_mem_cons] at htrimmed
    rw [List.map_cons, List.length_cons, List.range'_succ, List.cons.injEq] at hindex
    have hs : numbered? place s.compact = some ((s.index : Int), s) := by
      rw [numbered?_compact htrimmed.1, ← hindex.1]
    rw [List.map_cons, List.zipIdx_cons, List.filterMap_cons, List.map_cons, ← ih htrimmed.2 hindex.2]
    simp only [hs]

/-- **Steps that are shown are read again**, if they are numbered in their order. -/
theorem readList_shown (htrimmed : ∀ s ∈ steps, s.Trimmed)
    (hindex : steps.map index = List.range' 1 steps.length) : readList (shown steps) = some steps := by
  have hbounded : ∀ item ∈ steps.map compact, ¬IsUnbounded item := by
    intro item hitem
    obtain ⟨s, -, rfl⟩ := List.mem_map.1 hitem
    exact not_isUnbounded_compact s
  have hsorted : (steps.map fun s => ((s.index : Int), s)).Pairwise fun a b => decide (a.1 ≤ b.1) = true := by
    have hlt : (steps.map index).Pairwise (· < ·) := hindex ▸ List.pairwise_lt_range'
    rw [List.pairwise_map] at hlt ⊢
    refine hlt.imp fun h => ?_
    simpa using Nat.le_of_lt h
  rw [readList, listOf_shown, readEntries_of_bounded hbounded, Option.map_some,
    filterMap_numbered?_compact htrimmed hindex, List.mergeSort_of_pairwise hsorted, List.map_map]
  simp [Function.comp_def, reindex_of_map_index hindex]

end Automation.Step
