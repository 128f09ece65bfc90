import Automation.Proofs.Generation.Result
import Automation.Proofs.Stage.Retries

/-!
# The visits of a run

The stages of a run are visited one after the other, up to the first that fails. A visit is what is
seen of a stage from outside: what it asks, the run before and after it, and the store or the failure
that comes of it. Each visit begins with the store and the run that the one before it left, and the run
ends as its last visit does.

A visit keeps to the options of its stage if its calls go as the next replies tell (`keepsTo_visit`).
What holds of every visit of a stage, whatever the store and the run it begins with, holds of all
visits of a run (`forall_mem_visits`).
-/

namespace Automation

/-- A stage with inputs and outputs of whatever types. -/
structure AnyStage where
  /-- The type of its inputs. -/
  {ι : Type}
  /-- The type of its outputs. -/
  {ο : Type}
  /-- The stage. -/
  stage : Stage ι ο

/-- A stage as it is seen from outside when it is run. -/
structure Visit where
  /-- The name of the stage. -/
  stage : Text
  /-- What it asks, or why it cannot ask anything. -/
  question : Except Failure CompletionRequest
  /-- The run when it begins. -/
  before : Run
  /-- What comes of it. -/
  outcome : Except Failure Store
  /-- The run when it ends. -/
  after : Run

namespace Visit

/-- The requests of the calls that were made in a visit. -/
def requests (v : Visit) : List CompletionRequest :=
  v.after.requests.drop v.before.requests.length

/-- The number of calls. -/
def calls (v : Visit) : Nat :=
  v.requests.length

variable [Limits]

/-- The number of calls that failed. -/
def failedCalls (v : Visit) : Nat :=
  (List.range v.calls).countP v.before.failsAt

/-- All attempts of a stage fail, the last one in some way. -/
def GivesUp (o : StageOptions) (v : Visit) (failure : Failure) : Prop :=
  (∃ request, v.question = .ok request) ∧ (∀ j < o.attempts, v.before.failsAt j = true) ∧
    Run.answer v.stage o.timeLimit v.before.replies[o.attempts - 1]? = .error failure

/-- The calls of a visit go as the options of the stage and the next replies tell. -/
structure KeepsTo (o : StageOptions) (v : Visit) : Prop where
  /-- Without anything to ask no call is made. -/
  unasked : ∀ {failure}, v.question = .error failure → v.requests = [] ∧ v.outcome = .error failure
  /-- If there is a call that succeeds, it is the last one, and all calls ask the same. -/
  answered : ∀ {request k}, v.question = .ok request → k < o.attempts → (∀ j < k, v.before.failsAt j = true) →
    v.before.failsAt k = false → v.requests = List.replicate (k + 1) request
  /-- If all attempts fail, there are no more calls than attempts, and the last failure counts. -/
  exhausted : ∀ {request}, v.question = .ok request → (∀ j < o.attempts, v.before.failsAt j = true) →
    v.requests = List.replicate o.attempts request ∧ ∃ failure, v.GivesUp o failure ∧ v.outcome = .error failure
  /-- Each call uses up a reply. -/
  replies : v.after.replies = v.before.replies.drop v.calls
  /-- The calls come behind those that were made before. -/
  after_requests : v.after.requests = v.before.requests ++ v.requests

end Visit

namespace AnyStage

variable [Limits]

/-- The visit of a stage. -/
def visit (s : AnyStage) (o : StageOptions) (listener : Option Listener) (store : Store) (r : Run) : Visit where
  stage := s.stage.name
  question := (s.stage.prepare store).map Prod.snd
  before := r
  outcome := (s.stage.run o listener store r).1
  after := (s.stage.run o listener store r).2

/-- Stages that are run one after the other, each with the store that the one before it left. -/
def runAll (o : StageOptions) (listener : Option Listener) : List AnyStage → Store → Run →
    Except Failure Store × Run
  | [], store, r => (.ok store, r)
  | s :: rest, store, r =>
    match s.stage.run o listener store r with
    | (.error failure, left) => (.error failure, left)
    | (.ok store', left) => runAll o listener rest store' left

/-- The visits of the stages that are run. -/
def visits (o : StageOptions) (listener : Option Listener) : List AnyStage → Store → Run → List Visit
  | [], _, _ => []
  | s :: rest, store, r =>
    s.visit o listener store r ::
      match s.stage.run o listener store r with
      | (.error _, _) => []
      | (.ok store', left) => visits o listener rest store' left

variable {o : StageOptions} {listener : Option Listener} {stages rest : List AnyStage} {s : AnyStage}
  {store store' : Store} {r r' left : Run} {v : Visit} {failure : Failure}

/-! ### Runs and their visits -/

theorem runAll_cons_of_error (h : s.stage.run o listener store r = (.error failure, left)) :
    runAll o listener (s :: rest) store r = (.error failure, left) := by
  rw [runAll, h]

theorem runAll_cons_of_ok (h : s.stage.run o listener store r = (.ok store', left)) :
    runAll o listener (s :: rest) store r = runAll o listener rest store' left := by
  rw [runAll, h]

theorem visits_cons_of_error (h : s.stage.run o listener store r = (.error failure, left)) :
    visits o listener (s :: rest) store r = [s.visit o listener store r] := by
  rw [visits, h]

theorem visits_cons_of_ok (h : s.stage.run o listener store r = (.ok store', left)) :
    visits o listener (s :: rest) store r =
      s.visit o listener store r :: visits o listener rest store' left := by
  rw [visits, h]

/-- What holds of the visits of each stage holds of the visits of a run. -/
theorem forall_mem_visits {P : Visit → Prop} (h : ∀ s ∈ stages, ∀ store r, P (s.visit o listener store r)) :
    ∀ v ∈ visits o listener stages store r, P v := by
  induction stages generalizing store r with
  | nil => intro v hv; cases hv
  | cons s rest ih =>
    have hhead := h s List.mem_cons_self store r
    rcases hrun : s.stage.run o listener store r with ⟨failure | store', left⟩
    · rw [visits_cons_of_error hrun]
      intro v hv
      rw [List.mem_singleton.1 hv]
      exact hhead
    · rw [visits_cons_of_ok hrun]
      intro v hv
      rcases List.mem_cons.1 hv with rfl | hv
      · exact hhead
      · exact ih (fun s hs => h s (List.mem_cons_of_mem _ hs)) v hv

/-- A run ends with the first visit that fails. -/
theorem runAll_of_mem_visits (hv : v ∈ visits o listener stages store r) (hfails : v.outcome = .error failure) :
    runAll o listener stages store r = (.error failure, v.after) := by
  induction stages generalizing store r with
  | nil => cases hv
  | cons s rest ih =>
    rcases hrun : s.stage.run o listener store r with ⟨first | store', left⟩
    · rw [visits_cons_of_error hrun] at hv
      rw [List.mem_singleton.1 hv] at hfails ⊢
      rw [runAll_cons_of_error hrun]
      simp only [visit, hrun] at hfails ⊢
      rw [Except.error.inj hfails]
    · rw [visits_cons_of_ok hrun] at hv
      rw [runAll_cons_of_ok hrun]
      rcases List.mem_cons.1 hv with rfl | hv
      · simp only [visit, hrun] at hfails
        cases hfails
      · exact ih hv

/-- In a run that ends well every stage is visited, and none fails. -/
theorem visits_of_runAll_ok (h : runAll o listener stages store r = (.ok store', r')) :
    (visits o listener stages store r).map Visit.stage = stages.map (fun s => s.stage.name) ∧
      ∀ v ∈ visits o listener stages store r, ∃ store, v.outcome = .ok store := by
  induction stages generalizing store r with
  | nil =>
    refine ⟨rfl, ?_⟩
    intro v hv
    cases hv
  | cons s rest ih =>
    rcases hrun : s.stage.run o listener store r with ⟨failure | next, left⟩
    · rw [runAll_cons_of_error hrun] at h
      cases h
    · rw [runAll_cons_of_ok hrun] at h
      obtain ⟨hnames, hok⟩ := ih h
      rw [visits_cons_of_ok hrun, List.map_cons, List.map_cons, hnames]
      refine ⟨rfl, ?_⟩
      intro v hv
      rcases List.mem_cons.1 hv with rfl | hv
      · exact ⟨next, by simp only [visit, hrun]⟩
      · exact hok v hv

/-- The calls of a run are those of its visits. -/
theorem requests_runAll (h : ∀ v ∈ visits o listener stages store r, v.KeepsTo o) :
    (runAll o listener stages store r).2.requests =
      r.requests ++ (visits o listener stages store r).flatMap Visit.requests := by
  induction stages generalizing store r with
  | nil => simp [runAll, visits]
  | cons s rest ih =>
    rcases hrun : s.stage.run o listener store r with ⟨failure | next, left⟩
    · rw [visits_cons_of_error hrun] at h ⊢
      have hafter := (h _ List.mem_cons_self).after_requests
      rw [runAll_cons_of_error hrun, List.flatMap_singleton]
      simpa [visit, hrun] using hafter
    · rw [visits_cons_of_ok hrun] at h ⊢
      have hafter := (h _ List.mem_cons_self).after_requests
      rw [runAll_cons_of_ok hrun, List.flatMap_cons, ih fun v hv => h v (List.mem_cons_of_mem _ hv),
        ← List.append_assoc]
      congr 1
      simpa [visit, hrun] using hafter

/-! ### The calls of a visit -/

/-- No two calls are the first one that succeeds. -/
theorem eq_of_first_success {j k : Nat} (hj : ∀ i < j, r.failsAt i = true) (hjs : r.failsAt j = false)
    (hk : ∀ i < k, r.failsAt i = true) (hks : r.failsAt k = false) : j = k := by
  rcases Nat.lt_trichotomy j k with hlt | heq | hlt
  · rw [hk j hlt] at hjs
    cases hjs
  · exact heq
  · rw [hj k hlt] at hks
    cases hks

/-- The visit of a stage keeps to its options. -/
theorem keepsTo_visit (hlimit : o.timeLimit.isNegative = false) (s : AnyStage) (listener : Option Listener)
    (store : Store) (r : Run) : (s.visit o listener store r).KeepsTo o := by
  have hcourse := Stage.course_run hlimit s.stage listener store r
  unfold visit
  generalize (s.stage.run o listener store r).1 = outcome at hcourse ⊢
  generalize (s.stage.run o listener store r).2 = after at hcourse ⊢
  cases hcourse with
  | unprepared hprepare =>
    rw [hprepare]
    refine ⟨?_, nofun, nofun, by simp [Visit.calls, Visit.requests], by simp [Visit.requests]⟩
    intro failure hfailure
    cases hfailure
    exact ⟨by simp [Visit.requests], rfl⟩
  | @answered input request k finding hprepare hk hfirst hsuccess hanswer =>
    rw [hprepare]
    refine ⟨nofun, ?_, ?_, by simp [Visit.calls, Visit.requests], by simp [Visit.requests]⟩
    · intro asked j hasked hj hbefore hanswered
      obtain rfl := eq_of_first_success hbefore hanswered hfirst hsuccess
      rw [← Except.ok.inj hasked]
      simp [Visit.requests]
    · intro asked hasked hall
      rw [hall k hk] at hsuccess
      cases hsuccess
  | @exhausted input request failure hprepare hall hlast =>
    rw [hprepare]
    refine ⟨nofun, ?_, ?_, by simp [Visit.calls, Visit.requests], by simp [Visit.requests]⟩
    · intro asked j hasked hj hbefore hanswered
      rw [hall j hj] at hanswered
      cases hanswered
    · intro asked hasked hfail
      rw [← Except.ok.inj hasked]
      exact ⟨by simp [Visit.requests], failure, ⟨⟨request, rfl⟩, hall, hlast⟩, rfl⟩

end AnyStage

namespace Visit

variable {o : StageOptions} {v : Visit} {store : Store} [Limits]

/-- A visit that ends well makes one more call than fail. -/
theorem calls_of_ok (hv : v.KeepsTo o) (hok : v.outcome = .ok store) : v.calls = v.failedCalls + 1 := by
  obtain ⟨request, hquestion⟩ : ∃ request, v.question = .ok request := by
    cases hquestion : v.question with
    | ok request => exact ⟨request, rfl⟩
    | error failure =>
      have hfailed := (hv.unasked hquestion).2
      rw [hok] at hfailed
      cases hfailed
  rcases v.before.first_success_or_all_fail o.attempts with ⟨k, hk, hfirst, hsuccess⟩ | hall
  · have hcalls : v.calls = k + 1 := by
      rw [calls, hv.answered hquestion hk hfirst hsuccess, List.length_replicate]
    have hfailed : (List.range k).countP v.before.failsAt = k := by
      rw [List.countP_eq_length.2 fun j hj => hfirst j (List.mem_range.1 hj), List.length_range]
    rw [failedCalls, hcalls, List.range_succ, List.countP_append, hfailed, List.countP_singleton, hsuccess]
    rfl
  · obtain ⟨-, failure, -, hfailure⟩ := hv.exhausted hquestion hall
    rw [hok] at hfailure
    cases hfailure

end Visit

/-! ### Generators -/

namespace Generator

variable {g : Generator} {listener : Option Listener} {task : Text} {r : Run} {v : Visit} {failure : Failure}
  {result : GenerationResult} [Limits]

/-- The four stages with which a generator makes a workflow. -/
def stages (g : Generator) : List AnyStage :=
  [⟨Stage.decomposition⟩, ⟨Stage.mapping g.catalog g.options.offered⟩, ⟨Stage.architecture⟩, ⟨Stage.optimization⟩]

/-- The visits of a generation, none if the task is blank. -/
def visits (g : Generator) (listener : Option Listener) (task : Text) (r : Run) : List Visit :=
  if task.trim.isEmpty then [] else AnyStage.visits g.options listener g.stages (initialStore task.trim) r

theorem runStages_eq (g : Generator) (listener : Option Listener) (store : Store) (r : Run) :
    g.runStages listener store r = AnyStage.runAll g.options listener g.stages store r := by
  simp only [runStages, stages, AnyStage.runAll]
  rcases Stage.decomposition.run g.options listener store r with ⟨failure | s₁, r₁⟩
  · rfl
  dsimp only
  rcases (Stage.mapping g.catalog g.options.offered).run g.options listener s₁ r₁ with ⟨failure | s₂, r₂⟩
  · rfl
  dsimp only
  rcases Stage.architecture.run g.options listener s₂ r₂ with ⟨failure | s₃, r₃⟩
  · rfl
  dsimp only
  rcases Stage.optimization.run g.options listener s₃ r₃ with ⟨failure | s₄, r₄⟩
  · rfl
  · rfl

theorem generate_of_blank (htask : task.trim.isEmpty = true) :
    g.generate listener task r = (.error .blankTask, r) ∧ g.visits listener task r = [] := by
  simp [generate, visits, htask]

/-- A generation goes through its stages, and tells what follows if they end well. -/
theorem generate_eq (htask : task.trim.isEmpty = false) :
    g.generate listener task r =
      match AnyStage.runAll g.options listener g.stages (initialStore task.trim) r with
      | (.error failure, left) => (.error failure, left)
      | (.ok store, left) =>
        (.ok (g.result task.trim store), (left.tell listener assemblyEvent).tell listener completionEvent) := by
  rw [generate]
  simp only [htask, runStages_eq]
  rfl

theorem fst_generate (htask : task.trim.isEmpty = false) :
    (g.generate listener task r).1 =
      (AnyStage.runAll g.options listener g.stages (initialStore task.trim) r).1.map (g.result task.trim) := by
  rw [generate_eq htask]
  rcases AnyStage.runAll g.options listener g.stages (initialStore task.trim) r with ⟨failure | store, left⟩ <;> rfl

theorem visits_eq (htask : task.trim.isEmpty = false) :
    g.visits listener task r = AnyStage.visits g.options listener g.stages (initialStore task.trim) r := by
  rw [visits, htask]
  rfl

/-- What holds of the visits of the four stages holds of the visits of a generation. -/
theorem forall_mem_visits_stages {P : Visit → Prop}
    (h : ∀ s ∈ g.stages, ∀ store r, P (s.visit g.options listener store r)) :
    ∀ v ∈ g.visits listener task r, P v := by
  intro v hv
  cases htask : task.trim.isEmpty with
  | true =>
    rw [(generate_of_blank htask).2] at hv
    cases hv
  | false =>
    rw [visits_eq htask] at hv
    exact AnyStage.forall_mem_visits h v hv

/-- A generation ends with the first visit that fails. -/
theorem generate_of_mem_visits (hv : v ∈ g.visits listener task r) (hfails : v.outcome = .error failure) :
    g.generate listener task r = (.error failure, v.after) := by
  cases htask : task.trim.isEmpty with
  | true =>
    rw [(generate_of_blank htask).2] at hv
    cases hv
  | false =>
    rw [visits_eq htask] at hv
    rw [generate_eq htask, AnyStage.runAll_of_mem_visits hv hfails]

/-- In a generation that ends well all four stages are visited, and none fails. -/
theorem visits_of_generate_ok (h : (g.generate listener task r).1 = .ok result) :
    (g.visits listener task r).map Visit.stage = stageNames ∧
      ∀ v ∈ g.visits listener task r, ∃ store, v.outcome = .ok store := by
  cases htask : task.trim.isEmpty with
  | true =>
    rw [(generate_of_blank htask).1] at h
    cases h
  | false =>
    rw [generate_eq htask] at h
    rw [visits_eq htask]
    rcases hrun : AnyStage.runAll g.options listener g.stages (initialStore task.trim) r with ⟨failure | store, left⟩
    · rw [hrun] at h
      cases h
    · exact AnyStage.visits_of_runAll_ok hrun

/-- The calls of a generation are those of its visits. -/
theorem requests_generate (h : ∀ v ∈ g.visits listener task r, v.KeepsTo g.options) :
    (g.generate listener task r).2.requests =
      r.requests ++ (g.visits listener task r).flatMap Visit.requests := by
  cases htask : task.trim.isEmpty with
  | true => simp [generate_of_blank htask]
  | false =>
    rw [visits_eq htask] at h ⊢
    rw [generate_eq htask, ← AnyStage.requests_runAll h]
    rcases AnyStage.runAll g.options listener g.stages (initialStore task.trim) r with ⟨failure | store, left⟩
    · rfl
    · simp [Run.requests_tell]

end Generator

end Automation
