import Automation.Proofs.Generation.Visits

/-!
# What is told of a run

Six events belong to a run: one for each of the four stages, one before the steps are assembled and one
at the end. A stage tells its event when it begins, before it reads anything or calls the service, so
neither its retries nor its failure can move, repeat or suppress it.

Nothing in a run looks at what was told. To forget the events of a run is the same as not to listen to
it (`generate_unheard`), and a listener that fails is not heard of again.

Main statement: `reported_generate`.
-/

namespace Automation

/-! ### Forgetting what was told -/

namespace Run

variable {listener : Option Listener} {event : ProgressEvent} {r : Run}

/-- A run of which no event was told. -/
def unheard (r : Run) : Run :=
  { r with events := [] }

@[simp] theorem tell_none : r.tell none event = r := rfl

@[simp] theorem unheard_tell : (r.tell listener event).unheard = r.unheard := by
  unfold tell
  split
  · rfl
  · split <;> rfl

theorem unheard_eq_iff {r' : Run} : r.unheard = r'.unheard ↔
    r.requests = r'.requests ∧ r.replies = r'.replies ∧ r.pauses = r'.pauses := by
  simp only [unheard, mk.injEq, true_and]
  exact and_left_comm

/-- A call does not look at what was told. -/
theorem call_unheard (stage : Text) (limit : Number) (request : CompletionRequest) (r : Run) :
    r.unheard.call stage limit request = Prod.map id unheard (r.call stage limit request) := by
  unfold call
  split
  · rfl
  · obtain ⟨replies, requests, events, pauses⟩ := r
    cases replies with
    | nil => rfl
    | cons reply replies => cases reply <;> rfl

/-- What is heard of some events: all of them, or nothing if nobody listens. -/
def heard (listener : Option Listener) (told : List ProgressEvent) : List ProgressEvent :=
  if listener.isSome then told else []

@[simp] theorem heard_none (told : List ProgressEvent) : heard none told = [] := rfl

@[simp] theorem heard_some (hear : Listener) (told : List ProgressEvent) : heard (some hear) told = told := rfl

theorem heard_append (listener : Option Listener) (told more : List ProgressEvent) :
    heard listener (told ++ more) = heard listener told ++ heard listener more := by
  cases listener <;> rfl

/-- An event is heard also by a listener that fails at it. -/
theorem events_tell (listener : Option Listener) (event : ProgressEvent) (r : Run) :
    (r.tell listener event).events = r.events ++ heard listener [event] := by
  unfold tell
  split
  · simp
  · split <;> rfl

theorem events_call (stage : Text) (limit : Number) (request : CompletionRequest) (r : Run) :
    (r.call stage limit request).2.events = r.events := by
  unfold call
  split
  · rfl
  · obtain ⟨replies, requests, events, pauses⟩ := r
    cases replies with
    | nil => rfl
    | cons reply replies => cases reply <;> rfl

end Run

/-! ### Stages -/

namespace Stage

variable {ι ο : Type} [Limits]

theorem attempt_unheard (s : Stage ι ο) (o : StageOptions) (request : CompletionRequest) (r : Run) :
    s.attempt o 0 request r.unheard = Prod.map id Run.unheard (s.attempt o 0 request r) := by
  rw [attempt_zero, attempt_zero, Run.call_unheard]
  rcases r.call s.name o.timeLimit request with ⟨failure | completion, left⟩ <;> rfl

theorem attempts_unheard (s : Stage ι ο) (o : StageOptions) (request : CompletionRequest) (retries : Nat)
    (r : Run) :
    s.attempts o request retries r.unheard = Prod.map id Run.unheard (s.attempts o request retries r) := by
  induction retries generalizing r with
  | zero => exact attempt_unheard s o request r
  | succ retries ih =>
    rw [attempts, attempts, attempt_unheard]
    rcases s.attempt o 0 request r with ⟨failure | finding, left⟩
    · exact ih left
    · rfl

/-- A stage does not look at what was told, and goes on as if nobody listened. -/
theorem run_unheard (s : Stage ι ο) (o : StageOptions) (listener : Option Listener) (store : Store) (r : Run) :
    s.run o none store r.unheard = Prod.map id Run.unheard (s.run o listener store r) := by
  have htold : (r.unheard.tell none s.event) = (r.tell listener s.event).unheard := Run.unheard_tell.symm
  cases hprepare : s.prepare store with
  | error failure =>
    rw [run_of_unprepared hprepare, run_of_unprepared hprepare, htold]
    rfl
  | ok prepared =>
    obtain ⟨input, request⟩ := prepared
    simp only [run, hprepare, htold, attempts_unheard]
    rcases s.attempts o request o.retries (r.tell listener s.event) with ⟨failure | finding, left⟩ <;> rfl

theorem events_attempts (s : Stage ι ο) (o : StageOptions) (request : CompletionRequest) (retries : Nat)
    (r : Run) : (s.attempts o request retries r).2.events = r.events := by
  refine rel_attempts (R := fun before after => after.events = before.events) ?_ ?_ retries r
  · intro r₁ r₂ r₃ h₁ h₂
    exact h₂.trans h₁
  · intro r
    rw [attempt_zero, ← Run.events_call s.name o.timeLimit request r]
    rcases r.call s.name o.timeLimit request with ⟨failure | completion, left⟩ <;> rfl

/-- A stage tells its event once, however many attempts it makes and whatever comes of them. -/
theorem events_run (s : Stage ι ο) (o : StageOptions) (listener : Option Listener) (store : Store) (r : Run) :
    (s.run o listener store r).2.events = r.events ++ Run.heard listener [s.event] := by
  cases hprepare : s.prepare store with
  | error failure => rw [run_of_unprepared hprepare, Run.events_tell]
  | ok prepared => rw [snd_run_of_prepared hprepare, events_attempts, Run.events_tell]

end Stage

/-! ### Stages in a row -/

namespace AnyStage

variable {o : StageOptions} {listener : Option Listener} {stages : List AnyStage} {store store' : Store}
  {r r' : Run} {v : Visit} {k : Nat} {failure : Failure} [Limits]

theorem runAll_unheard (o : StageOptions) (listener : Option Listener) (stages : List AnyStage) (store : Store)
    (r : Run) :
    runAll o none stages store r.unheard = Prod.map id Run.unheard (runAll o listener stages store r) := by
  induction stages generalizing store r with
  | nil => rfl
  | cons s rest ih =>
    rw [runAll, runAll, s.stage.run_unheard o listener store r]
    rcases s.stage.run o listener store r with ⟨failure | next, left⟩
    · rfl
    · exact ih next left

/-- As many stages have told their event as were visited. -/
theorem events_runAll (o : StageOptions) (listener : Option Listener) (stages : List AnyStage) (store : Store)
    (r : Run) :
    (runAll o listener stages store r).2.events = r.events ++
      Run.heard listener ((stages.map fun s => s.stage.event).take (visits o listener stages store r).length) := by
  induction stages generalizing store r with
  | nil => cases listener <;> simp [runAll, visits]
  | cons s rest ih =>
    have hhead := s.stage.events_run o listener store r
    rcases hrun : s.stage.run o listener store r with ⟨failure | next, left⟩
    · rw [hrun] at hhead
      rw [runAll_cons_of_error hrun, visits_cons_of_error hrun]
      exact hhead
    · rw [hrun] at hhead
      rw [runAll_cons_of_ok hrun, visits_cons_of_ok hrun, ih, hhead, List.map_cons, List.length_cons,
        List.take_succ_cons, List.append_assoc, ← Run.heard_append]
      rfl

/-- The visits of a run are those of the first stages. -/
theorem map_stage_visits (o : StageOptions) (listener : Option Listener) (stages : List AnyStage) (store : Store)
    (r : Run) :
    (visits o listener stages store r).map Visit.stage <+: stages.map fun s => s.stage.name := by
  induction stages generalizing store r with
  | nil => exact List.nil_prefix
  | cons s rest ih =>
    rcases hrun : s.stage.run o listener store r with ⟨failure | next, left⟩
    · rw [visits_cons_of_error hrun]
      exact List.cons_prefix_cons.2 ⟨rfl, List.nil_prefix⟩
    · rw [visits_cons_of_ok hrun]
      exact List.cons_prefix_cons.2 ⟨rfl, ih next left⟩

/-- No stage is visited behind one that fails. -/
theorem length_visits_of_error (hv : (visits o listener stages store r)[k]? = some v)
    (hfails : v.outcome = .error failure) : (visits o listener stages store r).length = k + 1 := by
  induction stages generalizing store r k with
  | nil => simp [visits] at hv
  | cons s rest ih =>
    rcases hrun : s.stage.run o listener store r with ⟨first | next, left⟩
    · rw [visits_cons_of_error hrun] at hv ⊢
      obtain ⟨hk, -⟩ := List.getElem?_eq_some_iff.1 hv
      simp only [List.length_singleton] at hk ⊢
      omega
    · rw [visits_cons_of_ok hrun] at hv ⊢
      cases k with
      | zero =>
        rw [List.getElem?_cons_zero] at hv
        obtain rfl := Option.some.inj hv
        simp only [visit, hrun] at hfails
        cases hfails
      | succ k =>
        rw [List.getElem?_cons_succ] at hv
        rw [List.length_cons, ih hv]

/-- If a run of stages fails, one of its visits does. -/
theorem exists_visit_of_runAll_error (h : runAll o listener stages store r = (.error failure, r')) :
    ∃ (k : Nat) (v : Visit), (visits o listener stages store r)[k]? = some v ∧ v.outcome = .error failure := by
  induction stages generalizing store r with
  | nil => cases h
  | cons s rest ih =>
    rcases hrun : s.stage.run o listener store r with ⟨first | next, left⟩
    · rw [runAll_cons_of_error hrun] at h
      rw [visits_cons_of_error hrun]
      obtain ⟨rfl, -⟩ : first = failure ∧ left = r' := by simpa using h
      exact ⟨0, _, rfl, by simp only [visit, hrun]⟩
    · rw [runAll_cons_of_ok hrun] at h
      rw [visits_cons_of_ok hrun]
      obtain ⟨k, v, hv, hfails⟩ := ih h
      exact ⟨k + 1, v, hv, hfails⟩

end AnyStage

/-! ### Generators -/

namespace Generator

variable {g : Generator} {listener : Option Listener} {hear : Listener} {task : Text} {r : Run} {failure : Failure}
  {result : GenerationResult} {outcome : Except Failure GenerationResult} {told : List ProgressEvent} {k : Nat}
  {v : Visit}

/-- The events of a run that ends well. -/
def schedule : List ProgressEvent := [
  ⟨"decomposition", "Breaking down your task into micro-steps...", 10⟩,
  ⟨"mapping", "Mapping steps to n8n nodes...", 30⟩,
  ⟨"architecture", "Designing workflow architecture...", 60⟩,
  ⟨"optimization", "Optimizing for performance and cost...", 80⟩,
  ⟨"generation", "Generating n8n workflow file...", 90⟩,
  ⟨"complete", "Workflow generation complete!", 100⟩]

theorem nodup_schedule : schedule.Nodup := by decide

variable [Limits]

theorem map_event_stages (g : Generator) : (g.stages.map fun s => s.stage.event) = schedule.take 4 := rfl

/-- A generation does not look at what was told, and goes on as if nobody listened. -/
theorem generate_unheard (g : Generator) (listener : Option Listener) (task : Text) (r : Run) :
    g.generate none task r.unheard = Prod.map id Run.unheard (g.generate listener task r) := by
  cases htask : task.trim.isEmpty with
  | true =>
    rw [(generate_of_blank htask).1, (generate_of_blank htask).1]
    rfl
  | false =>
    rw [generate_eq htask, generate_eq htask, AnyStage.runAll_unheard g.options listener]
    rcases AnyStage.runAll g.options listener g.stages (initialStore task.trim) r with ⟨failure | store, left⟩
    · rfl
    · simp

/-- The ways in which a generation can end, each with the events that have been told by then. -/
inductive Ending (g : Generator) (listener : Option Listener) (task : Text) (r : Run) :
    Except Failure GenerationResult → List ProgressEvent → Prop where
  /-- The task is blank, and nothing is begun. -/
  | blank : task.trim = [] → Ending g listener task r (.error .blankTask) []
  /-- A stage fails. -/
  | failed {k : Nat} {v : Visit} {failure : Failure} : (g.visits listener task r)[k]? = some v →
    v.outcome = .error failure → Ending g listener task r (.error failure) (schedule.take (k + 1))
  /-- There is a result. -/
  | complete {result : GenerationResult} : (∀ v ∈ g.visits listener task r, ∃ store, v.outcome = .ok store) →
    Ending g listener task r (.ok result) schedule

/-- The stages are visited in their order. -/
theorem map_stage_visits (g : Generator) (listener : Option Listener) (task : Text) (r : Run) :
    (g.visits listener task r).map Visit.stage <+: stageNames := by
  cases htask : task.trim.isEmpty with
  | true =>
    rw [(generate_of_blank htask).2]
    exact List.nil_prefix
  | false =>
    rw [visits_eq htask]
    exact AnyStage.map_stage_visits g.options listener g.stages (initialStore task.trim) r

theorem length_visits_le (g : Generator) (listener : Option Listener) (task : Text) (r : Run) :
    (g.visits listener task r).length ≤ 4 := by
  simpa [stageNames] using (g.map_stage_visits listener task r).length_le

theorem stage_of_getElem?_visits (hv : (g.visits listener task r)[k]? = some v) :
    stageNames[k]? = some v.stage := by
  have hk := (List.getElem?_eq_some_iff.1 hv).1
  have hk' : k < ((g.visits listener task r).map Visit.stage).length := by simpa using hk
  obtain ⟨rest, hrest⟩ := g.map_stage_visits listener task r
  rw [← hrest, List.getElem?_append_left hk', List.getElem?_map, hv, Option.map_some]

theorem length_visits_of_error (hv : (g.visits listener task r)[k]? = some v)
    (hfails : v.outcome = .error failure) : (g.visits listener task r).length = k + 1 := by
  cases htask : task.trim.isEmpty with
  | true =>
    rw [(generate_of_blank htask).2] at hv
    cases hv
  | false =>
    rw [visits_eq htask] at hv ⊢
    exact AnyStage.length_visits_of_error hv hfails

/-- A generation ends in one of these ways. -/
theorem ending_generate (g : Generator) (listener : Option Listener) (task : Text) (r : Run) :
    ∃ told, g.Ending listener task r (g.generate listener task r).1 told ∧
      (g.generate listener task r).2.events = r.events ++ Run.heard listener told := by
  cases htask : task.trim.isEmpty with
  | true =>
    rw [(generate_of_blank htask).1]
    exact ⟨[], .blank (List.isEmpty_iff.1 htask), by cases listener <;> simp⟩
  | false =>
    have hgenerate : g.generate listener task r = _ := generate_eq htask
    have hevents := AnyStage.events_runAll g.options listener g.stages (initialStore task.trim) r
    rw [map_event_stages, ← visits_eq htask] at hevents
    rcases hrun : AnyStage.runAll g.options listener g.stages (initialStore task.trim) r with ⟨failure | store, left⟩
    · obtain ⟨k, v, hv, hfails⟩ := AnyStage.exists_visit_of_runAll_error hrun
      have hlength := AnyStage.length_visits_of_error hv hfails
      rw [← visits_eq htask] at hv hlength
      have hk : k + 1 ≤ 4 := hlength ▸ g.length_visits_le listener task r
      rw [hrun] at hgenerate hevents
      rw [hlength, List.take_take, Nat.min_eq_left hk] at hevents
      rw [hgenerate]
      exact ⟨schedule.take (k + 1), .failed hv hfails, hevents⟩
    · obtain ⟨hnames, hok⟩ := AnyStage.visits_of_runAll_ok hrun
      have hlength : (g.visits listener task r).length = 4 := by
        rw [visits_eq htask]
        simpa [stages] using congrArg List.length hnames
      rw [← visits_eq htask] at hok
      rw [hrun] at hgenerate hevents
      rw [hlength] at hevents
      rw [hgenerate]
      refine ⟨schedule, .complete hok, ?_⟩
      rw [Run.events_tell, Run.events_tell, hevents, List.append_assoc, List.append_assoc, ← Run.heard_append,
        ← Run.heard_append]
      rfl

namespace Ending

theorem prefix_schedule (h : g.Ending listener task r outcome told) : told <+: schedule := by
  cases h with
  | blank => exact List.nil_prefix
  | failed => exact List.take_prefix _ _
  | complete => exact List.prefix_rfl

/-- The whole schedule is told if and only if there is a result. -/
theorem eq_schedule_iff (h : g.Ending listener task r outcome told) :
    told = schedule ↔ ∃ result, outcome = .ok result := by
  cases h with
  | blank => simp [schedule]
  | @failed k v failure hv hfails =>
    have hk : k < 4 := Nat.lt_of_lt_of_le (List.getElem?_eq_some_iff.1 hv).1 (g.length_visits_le listener task r)
    simp only [reduceCtorEq, exists_false, iff_false]
    intro hall
    have hlength := congrArg List.length hall
    simp only [List.length_take, schedule, List.length_cons, List.length_nil] at hlength
    omega
  | complete => simp

/-- If the stage that is visited behind `k` others fails, it ends the run, and what it tells is the last. -/
theorem of_visit (h : g.Ending listener task r outcome told) (hv : (g.visits listener task r)[k]? = some v)
    (hfails : v.outcome = .error failure) : told = schedule.take (k + 1) := by
  have hmem := List.mem_of_getElem? hv
  have hnone : ¬∃ store, v.outcome = .ok store := by simp [hfails]
  cases h with
  | blank htask => simp [visits, htask] at hv
  | @failed k' v' failure' hv' hfails' =>
    have hlength := length_visits_of_error hv hfails
    rw [length_visits_of_error hv' hfails'] at hlength
    rw [hlength]
  | complete hok => exact absurd (hok v hmem) hnone

/-- If no stage fails and there is no result, the task is blank and nothing is told. -/
theorem of_visits_ok (h : g.Ending listener task r (.error failure) told)
    (hok : ∀ v ∈ g.visits listener task r, ∃ store, v.outcome = .ok store) :
    task.trim = [] ∧ failure = .blankTask ∧ told = [] := by
  cases h with
  | blank htask => exact ⟨htask, rfl, rfl⟩
  | failed hv hfails =>
    obtain ⟨store, hstore⟩ := hok _ (List.mem_of_getElem? hv)
    rw [hfails] at hstore
    cases hstore

end Ending

/-- What whoever listens to a generation is told, and that it makes no difference. -/
structure Reported (g : Generator) (task : Text) (r : Run) : Prop where
  /-- Whether somebody listens or not, and fails at it or not, the same comes of it, with the same calls,
  replies and pauses. -/
  undisturbed : ∀ listener, (g.generate listener task r).1 = (g.generate none task r).1 ∧
    (g.generate listener task r).2.requests = (g.generate none task r).2.requests ∧
    (g.generate listener task r).2.replies = (g.generate none task r).2.replies ∧
    (g.generate listener task r).2.pauses = (g.generate none task r).2.pauses
  /-- Without a listener nothing is told. -/
  untold : (g.generate none task r).2.events = r.events
  /-- A listener is told a first part of the schedule, none of it twice, and all of it if and only if there
  is a result. -/
  ordered : ∀ hear, ∃ told, (g.generate (some hear) task r).2.events = r.events ++ told ∧
    told <+: schedule ∧ told.Nodup ∧ (told = schedule ↔ ∃ result, (g.generate (some hear) task r).1 = .ok result)
  /-- If the stage that is visited behind `k` others fails, a listener is told of it and of them. -/
  failed : ∀ hear k v failure, (g.visits (some hear) task r)[k]? = some v → v.outcome = .error failure →
    stageNames[k]? = some v.stage ∧ (g.generate (some hear) task r).1 = .error failure ∧
      (g.generate (some hear) task r).2.events = r.events ++ schedule.take (k + 1)
  /-- If no stage fails and there is no result, the task is blank and a listener is told nothing. -/
  blank : ∀ hear failure, (g.generate (some hear) task r).1 = .error failure →
    (∀ v ∈ g.visits (some hear) task r, ∃ store, v.outcome = .ok store) →
    task.trim = [] ∧ failure = .blankTask ∧ (g.generate (some hear) task r).2.events = r.events

/-- **What is told of a run is in order and complete, and telling it makes no difference**, whatever the task,
the options and the replies, and wherever the run ends. -/
theorem reported_generate (g : Generator) (task : Text) (r : Run) : g.Reported task r := by
  refine ⟨?_, ?_, ?_, ?_, ?_⟩
  · intro listener
    have hsame := (g.generate_unheard listener task r).symm.trans (g.generate_unheard none task r)
    obtain ⟨houtcome, hrun⟩ := Prod.ext_iff.1 hsame
    exact ⟨houtcome, Run.unheard_eq_iff.1 hrun⟩
  · obtain ⟨told, -, hevents⟩ := g.ending_generate none task r
    simpa using hevents
  · intro hear
    obtain ⟨told, hending, hevents⟩ := g.ending_generate (some hear) task r
    exact ⟨told, hevents, hending.prefix_schedule, hending.prefix_schedule.sublist.nodup nodup_schedule,
      hending.eq_schedule_iff⟩
  · intro hear k v failure hv hfails
    obtain ⟨told, hending, hevents⟩ := g.ending_generate (some hear) task r
    rw [Run.heard_some, hending.of_visit hv hfails] at hevents
    refine ⟨stage_of_getElem?_visits hv, ?_, hevents⟩
    rw [generate_of_mem_visits (List.mem_of_getElem? hv) hfails]
  · intro hear failure herror hok
    obtain ⟨told, hending, hevents⟩ := g.ending_generate (some hear) task r
    rw [herror] at hending
    obtain ⟨htask, hfailure, rfl⟩ := hending.of_visits_ok hok
    exact ⟨htask, hfailure, by simpa using hevents⟩

end Generator

end Automation
