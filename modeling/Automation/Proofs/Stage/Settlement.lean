import Automation.Proofs.Json.Parts
import Automation.Proofs.Stage.Outcome
import Automation.Proofs.Step.Reading

/-!
# Which documents a stage settles

A stage settles a document by making its output of it or by falling back. It does neither only if it
fails on the document itself. No document makes the first two stages fail. The two that list steps
fail on a list in which a step declares an infinity as its number, and on no other document.

Main statement: `settles_stages`.
-/

namespace Automation

namespace Store

/-- The names of the stages that fell back, if they are kept as a list or not kept yet. -/
def fallbacks? (store : Store) : Option (List Json) :=
  match store.fallbackStages with
  | none => some []
  | some (.array names) => some names
  | some _ => none

/-- A store in which the name of a stage stands behind those that were recorded. -/
def recorded (store : Store) (names : List Json) (stage : Text) : Store :=
  { store with fallbackStages := some (.array (names ++ [.text stage])) }

theorem recordFallback_eq (store : Store) (stage : Text) :
    recordFallback store.fallbackStages stage =
      store.fallbacks?.map fun names => .array (names ++ [.text stage]) := by
  unfold recordFallback fallbacks?
  cases store.fallbackStages with
  | none => rfl
  | some record => cases record <;> rfl

end Store

namespace Stage

variable {ι ο : Type} {s : Stage ι ο} {store : Store} {names : List Json} {input : ι} {v document task : Json}
  {steps : List Step} {failure : Failure}

/-- A stage deals with a document: it accepts it, or it rejects it and falls back, which is recorded.
-/
inductive Settles (s : Stage ι ο) (store : Store) (names : List Json) (input : ι) (v : Json) : Prop where
  /-- What the stage makes of the document is its output. -/
  | accepted (output : ο) : s.validate input v = .accepted output →
    s.finish store input (.value v) = .ok (s.put output store) → Settles s store names input v
  /-- Its output is the fallback, and its name is recorded. -/
  | rejected : s.validate input v = .rejected →
    s.finish store input (.value v) = .ok (s.put (s.fallback input) (store.recorded names s.name)) →
    Settles s store names input v

theorem fallBack_of_fallbacks? (h : store.fallbacks? = some names) :
    s.fallBack store input = .ok (s.put (s.fallback input) (store.recorded names s.name)) := by
  rw [fallBack_ok_iff, Store.recordFallback_eq, h]
  exact ⟨_, rfl, rfl⟩

theorem finish_of_failed (h : s.validate input v = .failed failure) :
    s.finish store input (.value v) = .error failure := by
  rw [finish, h]

/-- A stage settles a document unless it fails on it. -/
theorem settles_iff (hrecord : store.fallbacks? = some names) :
    s.Settles store names input v ↔ ∀ failure, s.validate input v ≠ .failed failure := by
  constructor
  · intro h failure hfailed
    cases h with
    | accepted output h => cases hfailed.symm.trans h
    | rejected h => cases hfailed.symm.trans h
  · intro h
    cases hverdict : s.validate input v with
    | accepted output =>
      refine .accepted output hverdict ?_
      rw [finish, hverdict]
    | rejected =>
      refine .rejected hverdict ?_
      rw [finish, hverdict]
      exact fallBack_of_fallbacks? hrecord
    | failed failure => exact absurd hverdict (h failure)

/-- A stage that fails on some documents only, and in one way, settles the others. -/
theorem settles_or_fails {P : Prop} (hrecord : store.fallbacks? = some names)
    (hfailed : ∀ failure, s.validate input v = .failed failure ↔ P ∧ failure = .unbounded) :
    (¬P → s.Settles store names input v) ∧ (P → s.finish store input (.value v) = .error .unbounded) := by
  constructor
  · intro h
    exact (settles_iff hrecord).2 fun failure hverdict => h ((hfailed failure).1 hverdict).1
  · intro h
    exact finish_of_failed ((hfailed _).2 ⟨h, rfl⟩)

/-! ### Verdicts -/

theorem readDecomposition_ne_failed : readDecomposition task document ≠ .failed failure := by
  unfold readDecomposition
  split
  · nofun
  · split <;> nofun

theorem readMapping_ne_failed {catalog : Catalog} : readMapping catalog document ≠ .failed failure := by
  unfold readMapping
  split
  · split <;> nofun
  · nofun

theorem readArchitecture_eq_failed :
    readArchitecture document = .failed failure ↔ Step.DeclaresInfinity document ∧ failure = .unbounded := by
  rw [← Step.readList_eq_none, readArchitecture]
  cases Step.readList document with
  | none => simp [eq_comm]
  | some listed => cases listed <;> simp

theorem readOptimization_eq_failed :
    readOptimization steps document = .failed failure ↔ Step.DeclaresInfinity document ∧ failure = .unbounded := by
  rw [← Step.readList_eq_none, readOptimization]
  cases Step.readList document with
  | none => simp [eq_comm]
  | some listed =>
    simp only [reduceCtorEq, false_and, iff_false]
    split <;> nofun

/-! ### The four stages -/

/-- **No document keeps a stage from ending well but a list with an infinite step number.** Whatever a
completion holds, the first two stages accept it or fall back. The two that list steps do so unless a
step declares an infinity as its number, and fail then. -/
theorem settles_stages [Limits] (hrecord : store.fallbacks? = some names) :
    (∀ task v, decomposition.Settles store names task v) ∧
      (∀ catalog limit input v, (mapping catalog limit).Settles store names input v) ∧
      (∀ input v, (¬Step.DeclaresInfinity v → architecture.Settles store names input v) ∧
        (Step.DeclaresInfinity v → architecture.finish store input (.value v) = .error .unbounded)) ∧
      ∀ steps v, (¬Step.DeclaresInfinity v → optimization.Settles store names steps v) ∧
        (Step.DeclaresInfinity v → optimization.finish store steps (.value v) = .error .unbounded) := by
  refine ⟨?_, ?_, ?_, ?_⟩
  · intro task v
    exact (settles_iff hrecord).2 fun _ => readDecomposition_ne_failed
  · intro catalog limit input v
    exact (settles_iff hrecord).2 fun _ => readMapping_ne_failed
  · intro input v
    exact settles_or_fails hrecord fun _ => readArchitecture_eq_failed
  · intro steps v
    exact settles_or_fails hrecord fun _ => readOptimization_eq_failed

open scoped Limits in
/-- A step that declares what is no number, and nothing else that is of use, makes a revision fall back. -/
theorem settles_stages_no_number :
    ∃ v, Json.read "\x7b\"steps\": [\x7b\"step\": NaN, \"parallelizable\": -1e999\x7d, [1]]\x7d" = .ok v ∧
      optimization.Settles {} [] [.manualTrigger] v := by
  have hread : Json.read "\x7b\"steps\": [\x7b\"step\": NaN, \"parallelizable\": -1e999\x7d, [1]]\x7d" =
      .ok (.object [("steps", .array [.object [("step", .float .nan), ("parallelizable", .float (.infinite true))],
        .array [.int 1]])]) :=
    Json.toOption_eq_some.1 (by decide +kernel)
  exact ⟨_, hread, ((settles_stages rfl).2.2.2 _ _).1 (by decide +kernel)⟩

open scoped Limits in
/-- A step that declares an infinity keeps a revision from ending. -/
theorem finish_infinite_step_ne_ok :
    ∃ v, Json.read "\x7b\"steps\": [\x7b\"step\": Infinity\x7d]\x7d" = .ok v ∧
      ¬∃ store, optimization.finish {} [.manualTrigger] (.value v) = .ok store := by
  have hread : Json.read "\x7b\"steps\": [\x7b\"step\": Infinity\x7d]\x7d" =
      .ok (.object [("steps", .array [.object [("step", .float (.infinite false))]])]) :=
    Json.toOption_eq_some.1 (by decide +kernel)
  have hlist : Step.readList (.object [("steps", .array [.object [("step", .float (.infinite false))]])]) = none :=
    rfl
  refine ⟨_, hread, ?_⟩
  rintro ⟨store, hstore⟩
  have hfails : optimization.finish {} [.manualTrigger] (.value _) = .error .unbounded := finish_of_failed
    (readOptimization_eq_failed.2 ⟨Step.readList_eq_none.1 hlist, rfl⟩)
  cases hstore.symm.trans hfails

end Stage

end Automation
