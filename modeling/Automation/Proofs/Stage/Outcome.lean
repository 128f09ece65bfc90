import Automation.Stage.Architecture
import Automation.Stage.Decomposition
import Automation.Stage.Mapping
import Automation.Stage.Optimization

/-!
# What a stage does to the store

A stage that ends well has found something in a completion. It either accepts that and puts an
output of its own into the store, or it declines and puts its fallback there, with one more name in
the record of stages that fell back. `run_ok_iff` and `finish_ok_iff` say this once; what later
modules need of a stage they take from there.

Main statement: `records_run`, a stage adds nothing to the record but its own name.
-/

namespace Automation

namespace Stage

variable {ι ο : Type} {s : Stage ι ο} {o : StageOptions} {listener : Option Listener} {store store' : Store}
  {r r' : Run} {input : ι}

/-- Whether a stage makes nothing of what was found in a completion: there is no document in it, or
one that does not have the shape that is needed. -/
def Declines (s : Stage ι ο) (input : ι) : Completion.Finding → Prop
  | .failure .. => True
  | .value v => s.validate input v = .rejected

theorem fallBack_ok_iff : s.fallBack store input = .ok store' ↔
    ∃ record, Store.recordFallback store.fallbackStages s.name = some record ∧
      store' = s.put (s.fallback input) { store with fallbackStages := some record } := by
  unfold fallBack
  cases Store.recordFallback store.fallbackStages s.name with
  | none => simp
  | some record => simp [eq_comm]

/-- The two ways in which a stage ends well. -/
theorem finish_ok_iff {finding : Completion.Finding} : s.finish store input finding = .ok store' ↔
    (∃ v output, finding = .value v ∧ s.validate input v = .accepted output ∧ store' = s.put output store) ∨
      s.Declines input finding ∧ s.fallBack store input = .ok store' := by
  cases finding with
  | failure reason excerpt => simp [finish, Declines]
  | value v =>
    cases h : s.validate input v <;> simp [finish, Declines, h, eq_comm]

/-- A run ends well if there is an input, an attempt succeeds and what it found can be dealt with. -/
theorem run_ok_iff [Limits] : s.run o listener store r = (.ok store', r') ↔
    ∃ input request finding, s.prepare store = .ok (input, request) ∧
      s.attempts o request o.retries (r.tell listener s.event) = (.ok finding, r') ∧
      s.finish store input finding = .ok store' := by
  unfold run
  cases hp : s.prepare store with
  | error failure => simp
  | ok prepared =>
    obtain ⟨input, request⟩ := prepared
    rcases ha : s.attempts o request o.retries (r.tell listener s.event) with ⟨_ | finding, left⟩
    · simp [ha]
    · simp only [ha, Prod.mk.injEq, Except.ok.injEq]
      constructor
      · rintro ⟨h, rfl⟩
        exact ⟨input, request, finding, ⟨rfl, rfl⟩, by rw [ha], h⟩
      · rintro ⟨_, _, _, ⟨rfl, rfl⟩, h, hf⟩
        rw [ha] at h
        simp only [Prod.mk.injEq, Except.ok.injEq] at h
        obtain ⟨rfl, rfl⟩ := h
        exact ⟨hf, rfl⟩

end Stage

/-! ### The record of stages that fell back -/

/-- The names of the stages that fell back are kept, in order. -/
def Store.Records (store : Store) (names : List Text) : Prop :=
  store.fallbackStages = some (.ofTexts names)

theorem Store.recordFallback_ofTexts (names : List Text) (name : Text) :
    recordFallback (some (.ofTexts names)) name = some (.ofTexts (names ++ [name])) := by
  simp [recordFallback, Json.ofTexts]

namespace Stage

variable {ι ο : Type} {s : Stage ι ο} {o : StageOptions} {listener : Option Listener} {store store' : Store}
  {r r' : Run} {names : List Text}

/-- The output of a stage has a place of its own, so that putting it there leaves the record. -/
def KeepsRecord (s : Stage ι ο) : Prop :=
  ∀ output store, (s.put output store).fallbackStages = store.fallbackStages

theorem keepsRecord_decomposition : decomposition.KeepsRecord := fun _ _ => rfl

theorem keepsRecord_mapping [Limits] (catalog : Catalog) (limit : Int) : (mapping catalog limit).KeepsRecord :=
  fun _ _ => rfl

theorem keepsRecord_architecture [Limits] : architecture.KeepsRecord := fun _ _ => rfl

theorem keepsRecord_optimization : optimization.KeepsRecord := fun _ _ => rfl

/-- A stage adds nothing to the record but its own name. -/
theorem records_run [Limits] (hput : s.KeepsRecord) (hstore : store.Records names)
    (h : s.run o listener store r = (.ok store', r')) :
    ∃ added, added.Sublist [s.name] ∧ store'.Records (names ++ added) := by
  obtain ⟨input, request, finding, -, -, hfinish⟩ := run_ok_iff.1 h
  rcases finish_ok_iff.1 hfinish with ⟨v, output, -, -, rfl⟩ | ⟨-, hfall⟩
  · refine ⟨[], List.nil_sublist _, ?_⟩
    rw [Store.Records, hput, hstore, List.append_nil]
  · obtain ⟨record, hrecord, rfl⟩ := fallBack_ok_iff.1 hfall
    refine ⟨[s.name], List.Sublist.refl _, ?_⟩
    rw [hstore, Store.recordFallback_ofTexts] at hrecord
    rw [Store.Records, hput, hrecord]

end Stage

end Automation
