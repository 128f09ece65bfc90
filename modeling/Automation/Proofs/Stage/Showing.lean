import Automation.Proofs.Completion.Embedding
import Automation.Proofs.Completion.Unfenced
import Automation.Proofs.Step.Showing
import Automation.Stage.Optimization

/-!
# What is shown of steps

The service that revises steps is shown them in a message: some words, a document and some words. If
the message came back as a completion, the same steps would be read from it: the words have no braces,
so the first span is the document; the texts of the steps have no fences, so there are no blocks; and
the document is read back as it was written.

Main statement: `read_optimizationMessage`.
-/

namespace Automation

open Completion (fence Unfenced)
open Json (ReadsBack Style)

variable {s : Step} {steps : List Step} {style : Style} {depth : Nat}

namespace Step

/-! ### Documents of steps -/

/-- The texts of a step. -/
def texts (s : Step) : List Text :=
  [s.description, s.service, s.nodeType] ++ s.rationale.toList ++ s.errorHandling.toList

/-- A step whose texts are strings without fences. -/
def Legible (s : Step) : Prop :=
  ∀ t ∈ s.texts, t.isString ∧ ¬fence <:+: t

/-- What holds of null, of numbers, of truth values and of texts holds of all members of a step. -/
theorem forall_mem_fields {P : Json → Prop} (hnull : P .null) (hindex : P (.int s.index))
    (hflag : ∀ b, P (.bool b)) (hkind : P (.text s.kind.name)) (htexts : ∀ t ∈ s.texts, P (.text t)) :
    ∀ field ∈ s.fields, P field.2 := by
  have hnote {note : Option Text} (h : ∀ t ∈ note, P (.text t)) : P (.ofOption .text note) := by
    cases note with
    | none => exact hnull
    | some t => exact h t rfl
  simp only [texts, List.mem_append, Option.mem_toList] at htexts
  simp only [fields, List.forall_mem_cons]
  refine ⟨hindex, hkind, htexts _ (by simp), htexts _ (by simp), htexts _ (by simp), hnote fun t ht => ?_, hflag _,
    hnote fun t ht => ?_, List.forall_mem_nil _⟩
  · exact htexts t (.inl (.inr ht))
  · exact htexts t (.inr ht)

theorem exists_mem_fields {member : Text × Json} (h : member ∈ s.shownMembers) :
    ∃ field ∈ s.fields, member = (.ofString field.1, field.2) := by
  obtain ⟨field, hfield, rfl⟩ := List.mem_map.1 h
  exact ⟨field, (List.mem_filter.1 hfield).1, rfl⟩

theorem nodup_keys_shownMembers (s : Step) : s.shownMembers.keys.Nodup :=
  Members.nodup_keys_membersOf (s.nodup_keys_fields.sublist (List.filter_sublist.map Prod.fst))

theorem readsBack_compact (hstyle : style.Spaced) (hindex : s.index < Nat.pow 10 Numeral.digitLimit)
    (htexts : ∀ t ∈ s.texts, t.isString) : ReadsBack style (depth + 1) s.compact := by
  have hfields : ∀ field ∈ s.fields, ReadsBack style depth field.2 :=
    forall_mem_fields Json.readsBack_null (Json.readsBack_int (by simpa using hindex)) Json.readsBack_bool
      (Json.readsBack_text (Text.isString_ofString _)) fun t ht => Json.readsBack_text (htexts t ht)
  refine Json.readsBack_object hstyle (fun member hmember => ?_) s.nodup_keys_shownMembers
  obtain ⟨field, hfield, rfl⟩ := exists_mem_fields hmember
  exact ⟨Text.isString_ofString _, hfields field hfield⟩

theorem unfenced_compact (hstyle : style.Spaced) (htexts : ∀ t ∈ s.texts, ¬fence <:+: t) :
    Unfenced style s.compact := by
  have hfields : ∀ field ∈ s.fields, Unfenced style field.2 :=
    forall_mem_fields Completion.unfenced_null (Completion.unfenced_int _) Completion.unfenced_bool
      (Completion.unfenced_text (Completion.not_fence_of_not_mem (by cases s.kind <;> decide)))
      fun t ht => Completion.unfenced_text (htexts t ht)
  have hnames : ∀ field ∈ s.fields, Completion.tick ∉ Text.ofString field.1 := by
    simp only [fields, List.forall_mem_cons]
    decide
  refine Completion.unfenced_object hstyle fun member hmember => ?_
  obtain ⟨field, hfield, rfl⟩ := exists_mem_fields hmember
  exact ⟨Completion.not_fence_of_not_mem (hnames field hfield), hfields field hfield⟩

/-- The members of the document that steps are shown in. -/
def listing (steps : List Step) : Members :=
  Json.membersOf [("steps", .array (steps.map compact))]

theorem shown_eq (steps : List Step) : shown steps = .object (listing steps) :=
  rfl

theorem readsBack_shown [Limits] (hstyle : style.Spaced)
    (hindex : ∀ s ∈ steps, s.index < Nat.pow 10 Numeral.digitLimit) (htexts : ∀ s ∈ steps, s.Legible) : ReadsBack style Limits.nesting (shown steps) := by
  obtain ⟨depth, hdepth⟩ := Nat.exists_eq_add_of_le' Limits.four_le_nesting
  -- Steps are two levels below the document, and what is in them has none.
  have hitems : ∀ item ∈ steps.map compact, ReadsBack style (depth + 2) item := by
    intro item hitem
    obtain ⟨s, hs, rfl⟩ := List.mem_map.1 hitem
    exact readsBack_compact hstyle (hindex s hs) fun t ht => (htexts s hs t ht).1
  have hlisting : ∀ member ∈ listing steps, member.1.isString ∧ ReadsBack style (depth + 3) member.2 := by
    intro member hmember
    obtain rfl := List.mem_singleton.1 hmember
    exact ⟨Text.isString_ofString _, Json.readsBack_array hstyle hitems⟩
  rw [hdepth]
  exact Json.readsBack_object hstyle hlisting (List.pairwise_singleton _ _)

theorem unfenced_shown (hstyle : style.Spaced) (htexts : ∀ s ∈ steps, s.Legible) :
    Unfenced style (shown steps) := by
  have hitems : ∀ item ∈ steps.map compact, Unfenced style item := by
    intro item hitem
    obtain ⟨s, hs, rfl⟩ := List.mem_map.1 hitem
    exact unfenced_compact hstyle fun t ht => (htexts s hs t ht).2
  refine Completion.unfenced_object hstyle fun member hmember => ?_
  obtain rfl := List.mem_singleton.1 hmember
  have hkey : Completion.tick ∉ Text.ofString "steps" := by decide
  exact ⟨Completion.not_fence_of_not_mem hkey, Completion.unfenced_array hstyle hitems⟩

end Step

namespace Stage

/-! ### The message -/

theorem spaced_asciiLines : Style.asciiLines.Spaced := by
  rintro unit ⟨⟩
  decide

/-- What stands before the steps. -/
def beforeSteps : Text := "Workflow to optimize:\n"

/-- What stands behind the steps. -/
def behindSteps : Text := "\n\nProvide the optimized version."

theorem optimizationMessage_eq (steps : List Step) :
    optimizationMessage steps = beforeSteps ++ (Step.shown steps).write .asciiLines ++ behindSteps :=
  rfl

/-- **What is shown of steps is read as these steps**, if they have been checked, are numbered in their
order, and their texts are strings without fences. The bound is the one on the digits of an integer,
which no number of steps comes near. -/
theorem read_optimizationMessage [Limits] (hvalid : ∀ s ∈ steps, ∃ document, Step.check document = .valid s)
    (hindex : steps.map Step.index = List.range' 1 steps.length)
    (hlimit : steps.length < Nat.pow 10 Numeral.digitLimit)
    (htexts : ∀ s ∈ steps, ∀ t ∈ s.texts, t.isString ∧ ¬fence <:+: t) :
    ∃ document, Completion.read (optimizationMessage steps) = .ok (.value document) ∧
      Step.readList document = some steps := by
  have htrimmed : ∀ s ∈ steps, s.Trimmed := fun s hs => by
    obtain ⟨document, hdocument⟩ := hvalid s hs
    exact Step.trimmed_of_check hdocument
  have hnumbers : ∀ s ∈ steps, s.index < Nat.pow 10 Numeral.digitLimit := fun s hs => by
    have hmem : s.index ∈ List.range' 1 steps.length := hindex ▸ List.mem_map_of_mem hs
    have hle : s.index ≤ steps.length := by
      rw [List.mem_range'_1] at hmem
      omega
    exact Nat.lt_of_le_of_lt hle hlimit
  have hread : Json.read ((Step.shown steps).write .asciiLines) = .ok (Step.shown steps) :=
    Json.read_write (Step.readsBack_shown spaced_asciiLines hnumbers htexts)
  have hfence : ¬fence <:+: beforeSteps ++ (Step.shown steps).write .asciiLines ++ behindSteps := by
    have hunfenced := Step.unfenced_shown spaced_asciiLines htexts 0
    have hend := Completion.not_fence_between (e := behindSteps) (by decide) (by decide) hunfenced
      Completion.not_fence_nil
    rw [List.append_nil] at hend
    rw [List.append_assoc]
    exact Completion.not_fence_append (by decide) hend
  obtain ⟨t, hwritten⟩ := Json.exists_write_object_eq .asciiLines (Step.listing steps)
  rw [← Step.shown_eq] at hwritten
  have hspans : Completion.objectSpans beforeSteps = [] := by decide
  refine ⟨Step.shown steps, ?_, Step.readList_shown htrimmed hindex⟩
  rw [optimizationMessage_eq]
  refine Completion.read_of_ok (Completion.decides_embedded hread ?_ ?_ (by decide) ?_ hfence) hread
  · rw [hwritten]
    rfl
  · rw [hwritten, ← List.cons_append, List.getLast?_concat]
  · rw [hspans]
    exact nofun

/-- A step whose texts have quotes, braces, backticks, line breaks and characters that are written as
two halves. -/
def summaryPost : Step where
  index := 2
  kind := .errorHandler
  description := "Post \"\x7bsum\x7d \\ 100%\"\nto the 🎉 channel"
  service := "Chät"
  nodeType := "n8n-nodes-base.slack"
  rationale := some " \x60\x60see\x60\x60\t"
  parallelizable := true
  errorHandling := some []

open scoped Limits in
theorem read_optimizationMessage_summaryPost :
    (∀ s ∈ [Step.manualTrigger, summaryPost], ∃ document, Step.check document = .valid s) ∧
      (∀ s ∈ [Step.manualTrigger, summaryPost], ∀ t ∈ s.texts, t.isString ∧ ¬fence <:+: t) ∧
      ∃ document, Completion.read (optimizationMessage [.manualTrigger, summaryPost]) = .ok (.value document) ∧
        Step.readList document = some [.manualTrigger, summaryPost] := by
  have hvalid : ∀ s ∈ [Step.manualTrigger, summaryPost], ∃ document, Step.check document = .valid s := by
    simp only [List.forall_mem_cons]
    exact ⟨⟨Step.manualTrigger.toJson, by decide +kernel⟩, ⟨summaryPost.toJson, by decide +kernel⟩, nofun⟩
  have htexts : ∀ s ∈ [Step.manualTrigger, summaryPost], ∀ t ∈ s.texts, t.isString ∧ ¬fence <:+: t := by
    decide +kernel
  exact ⟨hvalid, htexts, read_optimizationMessage hvalid (by decide) (by decide +kernel) htexts⟩

end Stage

end Automation
