import Automation.Proofs.Stage.Attempts
import Automation.Proofs.Stage.Settlement
import Automation.Stage.InPlace

/-!
# What a run writes

A stage that works in place comes to the same as one that hands on a new store (`runInPlace_eq`), so
nothing is left half written: it fails before its first write or it makes them all. Its writes go to
the place of its output and to the record of stages that fell back.

Main statement: `framed_stages`.
-/

namespace Automation

/-! ### Work in place -/

namespace InPlace

variable {α β : Type}

theorem on_bind (work : InPlace α) (next : α → InPlace β) (store : Store) :
    (work >>= next).on store =
      match work.on store with
      | (.ok a, left) => (next a).on left
      | (.error failure, left) => (.error failure, left) := by
  have hbind : (work >>= next).on store = ExceptT.bindCont next (work.on store).1 (work.on store).2 := rfl
  rw [hbind]
  rcases work.on store with ⟨failure | a, left⟩
  · rfl
  · rfl

/-- A record that is not a list makes recording fail, and then nothing is written: only a missing
record is begun, and that is a list. -/
theorem on_record (stage : Text) (store : Store) :
    (do beginRecord; record stage : InPlace Unit).on store =
      match store.fallbacks? with
      | some names => (.ok (), store.recorded names stage)
      | none => (.error .noRecord, store) := by
  obtain ⟨task, fallbackStages, decomposition, mapping, architectureSteps, optimizedSteps⟩ := store
  cases fallbackStages with
  | none => rfl
  | some entry => cases entry <;> rfl

end InPlace

namespace Stage

variable {ι ο : Type} {s : Stage ι ο} {o : StageOptions} {listener : Option Listener} {store store' : Store}
  {r r' : Run} {input : ι} {failure : Failure}

theorem on_recordedFallback (s : Stage ι ο) (input : ι) (store : Store) :
    (s.recordedFallback input).on store =
      match store.fallbacks? with
      | some names => (.ok (s.fallback input), store.recorded names s.name)
      | none => (.error .noRecord, store) := by
  have hwork : s.recordedFallback input =
      (do InPlace.beginRecord; InPlace.record s.name : InPlace Unit) >>= fun _ => pure (s.fallback input) := by
    simp [recordedFallback]
  rw [hwork, InPlace.on_bind, InPlace.on_record]
  cases store.fallbacks? with
  | none => rfl
  | some names => rfl

/-- The store after some work that would hand on a new one: that one, or the old one at a failure. -/
def kept (store : Store) : Except Failure Store → Except Failure Unit × Store
  | .ok store' => (.ok (), store')
  | .error failure => (.error failure, store)

/-- Finishing in place comes to the same as finishing with a new store. -/
theorem on_finishInPlace (s : Stage ι ο) (input : ι) (finding : Completion.Finding) (store : Store) :
    (s.finishInPlace input finding).on store = kept store (s.finish store input finding) := by
  have hfall : (s.recordedFallback input >>= fun output => modify (s.put output)).on store =
      kept store (s.fallBack store input) := by
    rw [InPlace.on_bind, on_recordedFallback, fallBack, Store.recordFallback_eq]
    cases store.fallbacks? with
    | none => rfl
    | some names => rfl
  cases finding with
  | failure reason excerpt => exact hfall
  | value v =>
    rw [finishInPlace, settle, finish]
    cases s.validate input v with
    | accepted output => rfl
    | rejected => exact hfall
    | failed failure => rfl

/-- Running in place comes to the same as running with a new store. -/
theorem runInPlace_eq [Limits] (s : Stage ι ο) (o : StageOptions) (listener : Option Listener) (store : Store)
    (r : Run) :
    s.runInPlace o listener store r =
      ((kept store (s.run o listener store r).1).1, (kept store (s.run o listener store r).1).2,
        (s.run o listener store r).2) := by
  unfold runInPlace run
  cases s.prepare store with
  | error failure => rfl
  | ok prepared =>
    obtain ⟨input, request⟩ := prepared
    rcases hattempts : s.attempts o request o.retries (r.tell listener s.event) with ⟨failure | finding, left⟩
    · simp only [hattempts, kept]
    · simp only [hattempts, on_finishInPlace]

/-- A run in place that fails leaves the store as it was. -/
theorem store_of_runInPlace_error [Limits] (h : s.runInPlace o listener store r = (.error failure, store', r')) :
    store' = store := by
  rw [runInPlace_eq] at h
  cases hrun : (s.run o listener store r).1 with
  | error failure => rw [hrun] at h; cases h; rfl
  | ok left => rw [hrun] at h; cases h

theorem run_of_runInPlace_ok [Limits] (h : s.runInPlace o listener store r = (.ok (), store', r')) :
    s.run o listener store r = (.ok store', r') := by
  rw [runInPlace_eq] at h
  rcases hrun : s.run o listener store r with ⟨failure | left, after⟩
  · rw [hrun] at h; cases h
  · rw [hrun] at h; cases h; rfl

/-! ### The frame of a stage -/

/-- What a stage with an output under a key does to a store that stays where it is. -/
structure Framed [Limits] (key : Store.Key) (s : Stage ι key.Value) : Prop where
  /-- It comes to the same as handing on a new store. -/
  same : ∀ o listener store r, s.runInPlace o listener store r =
    ((kept store (s.run o listener store r).1).1, (kept store (s.run o listener store r).1).2,
      (s.run o listener store r).2)
  /-- If it fails, the store is as before. -/
  unchanged : ∀ {o listener store r failure store' r'},
    s.runInPlace o listener store r = (.error failure, store', r') → store' = store
  /-- If it ends well, no entry is another one than before but its output and the record of stages
  that fell back. -/
  others : ∀ {o listener store r store' r'}, s.runInPlace o listener store r = (.ok (), store', r') →
    ∀ other, other ≠ key → other ≠ .fallbackStages → store'.get? other = store.get? other
  /-- If it ends well, it went on with what it found in the last completion. If it declines that, its
  output is the fallback for its input, and its name stands behind the recorded ones. Otherwise its
  output is what it made of the document, and the record is as before. -/
  outcome : ∀ {o listener store r store' r'}, s.runInPlace o listener store r = (.ok (), store', r') →
    ∃ input request used completion finding, s.prepare store = .ok (input, request) ∧
      r.replies = used ++ .text completion :: r'.replies ∧ Completion.read completion = .ok finding ∧
      (s.Declines input finding → store'.get? key = some (s.fallback input) ∧
        ∃ names, store.fallbacks? = some names ∧
          store'.fallbackStages = some (.array (names ++ [.text s.name]))) ∧
      (¬s.Declines input finding → store'.fallbackStages = store.fallbackStages ∧
        ∃ v output, finding = .value v ∧ s.validate input v = .accepted output ∧
          store'.get? key = some output)

/-- The output of a stage is put under a key. -/
def PutsUnder (key : Store.Key) (s : Stage ι key.Value) : Prop :=
  ∀ output store, s.put output store = store.set key output

/-- A stage falls back if the record is a list or missing. -/
theorem fallBack_eq_ok : s.fallBack store input = .ok store' ↔
    ∃ names, store.fallbacks? = some names ∧ store' = s.put (s.fallback input) (store.recorded names s.name) := by
  rw [fallBack_ok_iff, Store.recordFallback_eq]
  constructor
  · rintro ⟨record, hrecord, rfl⟩
    obtain ⟨names, hnames, rfl⟩ := Option.map_eq_some_iff.1 hrecord
    exact ⟨names, hnames, rfl⟩
  · rintro ⟨names, hnames, rfl⟩
    rw [hnames]
    exact ⟨_, rfl, rfl⟩

/-- A stage whose output is put under a key other than that of the record is framed by the two. -/
theorem framed_of_putsUnder [Limits] {key : Store.Key} {s : Stage ι key.Value} (hput : s.PutsUnder key)
    (hkey : key ≠ .fallbackStages) : s.Framed key := by
  -- the record is an entry like the others, so that putting the output leaves it
  have hrecord : ∀ output store, (s.put output store).fallbackStages = store.fallbackStages := by
    intro output store
    rw [hput]
    exact Store.get?_set_of_ne store output hkey.symm
  have hself : ∀ output store, (s.put output store).get? key = some output := by
    intro output store
    rw [hput, Store.get?_set_self]
  refine ⟨runInPlace_eq s, store_of_runInPlace_error, ?_, ?_⟩
  · intro o listener store r store' r' h other hother hnot
    obtain ⟨input, request, finding, -, -, hfinish⟩ := run_ok_iff.1 (run_of_runInPlace_ok h)
    rcases finish_ok_iff.1 hfinish with ⟨v, output, -, -, rfl⟩ | ⟨-, hfall⟩
    · rw [hput]
      exact Store.get?_set_of_ne store output hother
    · obtain ⟨names, -, rfl⟩ := fallBack_eq_ok.1 hfall
      rw [hput, Store.get?_set_of_ne _ _ hother]
      exact store.get?_set_of_ne (.array (names ++ [.text s.name]) : Store.Key.fallbackStages.Value) hnot
  · intro o listener store r store' r' h
    obtain ⟨input, request, finding, hprepare, hattempts, hfinish⟩ := run_ok_iff.1 (run_of_runInPlace_ok h)
    obtain ⟨used, completion, hreplies, hread⟩ := attempts_ok hattempts
    rw [Run.replies_tell] at hreplies
    refine ⟨input, request, used, completion, finding, hprepare, hreplies, hread, ?_, ?_⟩
    · intro hdeclines
      rcases finish_ok_iff.1 hfinish with ⟨v, output, rfl, haccepted, -⟩ | ⟨-, hfall⟩
      · cases hdeclines.symm.trans haccepted
      · obtain ⟨names, hnames, rfl⟩ := fallBack_eq_ok.1 hfall
        exact ⟨hself _ _, names, hnames, hrecord _ _⟩
    · intro hnot
      rcases finish_ok_iff.1 hfinish with ⟨v, output, hv, haccepted, rfl⟩ | ⟨hdeclines, -⟩
      · exact ⟨hrecord _ _, v, output, hv, haccepted, hself _ _⟩
      · exact absurd hdeclines hnot

/-- **Every stage either fails and leaves the store as it was, or writes its output and nothing else but
its name in the record**, and that only if its output is the fallback. -/
theorem framed_stages [Limits] :
    decomposition.Framed .decomposition ∧ (∀ catalog limit, (mapping catalog limit).Framed .mapping) ∧
      architecture.Framed .architectureSteps ∧ optimization.Framed .optimizedSteps := by
  refine ⟨?_, ?_, ?_, ?_⟩
  · exact framed_of_putsUnder (fun _ _ => rfl) nofun
  · intro catalog limit
    exact framed_of_putsUnder (fun _ _ => rfl) nofun
  · exact framed_of_putsUnder (fun _ _ => rfl) nofun
  · exact framed_of_putsUnder (fun _ _ => rfl) nofun

end Stage

end Automation
