import Automation.Proofs.Generation.Visits
import Mathlib.Algebra.BigOperators.Group.List.Basic
import Mathlib.Algebra.GroupWithZero.Nat

/-!
# Retries in a whole run

Failed calls leave no trace but in the count of calls: what comes of a stage is up to the first call
that succeeds, and the stages behind it see nothing of those before. So a run in which no stage gives
up comes to the same as one without retries in which the service gives only the replies that succeed.
As for a single stage, a time limit below zero is left out, with which the service is never called.

Main statement: `retried_generate`.
-/

namespace Automation

namespace Run

variable {r : Run} {k : Nat}

/-- The first reply that succeeds is also the first one if those that fail are left out. -/
theorem filter_succeeds [Limits] (hfirst : ∀ j < k, r.failsAt j = true) (hsuccess : r.failsAt k = false) :
    ∃ reply, r.replies[k]? = some reply ∧
      r.replies.filter Reply.succeeds = reply :: (r.replies.drop (k + 1)).filter Reply.succeeds := by
  cases hreply : r.replies[k]? with
  | none => simp [failsAt, hreply] at hsuccess
  | some reply =>
    have hsucceeds : reply.succeeds = true := by simpa [failsAt, hreply] using hsuccess
    obtain ⟨hk, hget⟩ := List.getElem?_eq_some_iff.1 hreply
    have hnone : (r.replies.take k).filter Reply.succeeds = [] := by
      rw [List.filter_eq_nil_iff]
      intro earlier hearlier
      obtain ⟨j, hj, rfl⟩ := List.mem_take_iff_getElem.1 hearlier
      have hfail := hfirst j (by omega)
      simpa [failsAt, List.getElem?_eq_getElem (by omega : j < r.replies.length)] using hfail
    refine ⟨reply, rfl, ?_⟩
    calc r.replies.filter Reply.succeeds
        = (r.replies.take k ++ r.replies.drop k).filter Reply.succeeds := by rw [List.take_append_drop]
      _ = (r.replies.drop k).filter Reply.succeeds := by rw [List.filter_append, hnone, List.nil_append]
      _ = (reply :: r.replies.drop (k + 1)).filter Reply.succeeds := by rw [List.drop_eq_getElem_cons hk, hget]
      _ = reply :: (r.replies.drop (k + 1)).filter Reply.succeeds := List.filter_cons_of_pos hsucceeds

end Run

namespace StageOptions

/-- Options with a single attempt. -/
def single (o : StageOptions) : StageOptions :=
  { o with maxRetries := some 1 }

theorem attempts_single (o : StageOptions) : o.single.attempts = 1 := rfl

end StageOptions

namespace AnyStage

variable {o : StageOptions} {listener : Option Listener} {stages : List AnyStage} {s : AnyStage} {store : Store}
  {r r' : Run} [Limits]

/-- If a stage does not give up, the first reply that succeeds is all it needs: it comes to the same with
a single attempt at the replies without those that fail, and uses up the same of them. -/
theorem run_single (hlimit : o.timeLimit.isNegative = false) (hreplies : r'.replies = r.replies.filter Reply.succeeds)
    (hkeeps : ∀ failure, ¬(s.visit o listener store r).GivesUp o failure) :
    (s.stage.run o.single listener store r').1 = (s.stage.run o listener store r).1 ∧
      (s.stage.run o.single listener store r').2.replies =
        (s.stage.run o listener store r).2.replies.filter Reply.succeeds := by
  have hcourse := Stage.course_run hlimit s.stage listener store r
  have hvisit : (s.visit o listener store r).question = (s.stage.prepare store).map Prod.snd := rfl
  generalize (s.stage.run o listener store r).1 = outcome at hcourse ⊢
  generalize (s.stage.run o listener store r).2 = after at hcourse ⊢
  cases hcourse with
  | unprepared hprepare =>
    rw [Stage.run_of_unprepared hprepare]
    simp [hreplies]
  | @answered input request k finding hprepare hk hfirst hsuccess hanswer =>
    obtain ⟨reply, hreply, hfilter⟩ := Run.filter_succeeds hfirst hsuccess
    have hhead : Run.answer s.stage.name o.single.timeLimit r'.replies[0]? = .ok finding := by
      rw [hreplies, hfilter, ← hanswer, hreply]
      rfl
    have hpos : 0 < o.single.attempts := by
      rw [StageOptions.attempts_single]
      exact Nat.one_pos
    have hrun : s.stage.run o.single listener store r' =
        (s.stage.finish store input finding, (r'.tell listener s.stage.event).afterCalls 1 request) :=
      Stage.run_of_success (k := 0) hlimit hprepare hpos (fun j hj => absurd hj (Nat.not_lt_zero j)) hhead
    rw [hrun]
    simp [hreplies, hfilter]
  | @exhausted input request failure hprepare hall hlast =>
    refine absurd ⟨⟨request, ?_⟩, hall, hlast⟩ (hkeeps failure)
    rw [hvisit, hprepare]
    rfl

/-- Stages of which none gives up come to the same with single attempts. -/
theorem runAll_single (hlimit : o.timeLimit.isNegative = false)
    (hreplies : r'.replies = r.replies.filter Reply.succeeds)
    (hkeeps : ∀ v ∈ visits o listener stages store r, ∀ failure, ¬v.GivesUp o failure) :
    (runAll o.single listener stages store r').1 = (runAll o listener stages store r).1 := by
  induction stages generalizing store r r' with
  | nil => rfl
  | cons s rest ih =>
    have hhead : s.visit o listener store r ∈ visits o listener (s :: rest) store r := List.mem_cons_self
    obtain ⟨houtcome, hleft⟩ := run_single hlimit hreplies (hkeeps _ hhead)
    rcases hrun : s.stage.run o listener store r with ⟨failure | next, left⟩
    · rcases hsingle : s.stage.run o.single listener store r' with ⟨failure' | next', left'⟩
      · rw [runAll_cons_of_error hrun, runAll_cons_of_error hsingle]
        simpa [hrun, hsingle] using houtcome
      · simp [hrun, hsingle] at houtcome
    · rcases hsingle : s.stage.run o.single listener store r' with ⟨failure' | next', left'⟩
      · simp [hrun, hsingle] at houtcome
      · rw [hrun, hsingle] at houtcome hleft
        obtain rfl : next' = next := Except.ok.inj houtcome
        rw [visits_cons_of_ok hrun] at hkeeps
        rw [runAll_cons_of_ok hrun, runAll_cons_of_ok hsingle]
        exact ih hleft fun v hv => hkeeps v (List.mem_cons_of_mem _ hv)

end AnyStage

/-! ### Generators -/

namespace Generator

variable {g : Generator} {listener : Option Listener} {task : Text} {r : Run}

/-- A generator with a single attempt for each stage. -/
def single (g : Generator) : Generator :=
  { g with options := g.options.single }

/-- If no stage gives up, single attempts at the replies that succeed come to the same. -/
theorem generate_single [Limits] (hlimit : g.options.timeLimit.isNegative = false)
    (hkeeps : ∀ v ∈ g.visits listener task r, ∀ failure, ¬v.GivesUp g.options failure) :
    (g.single.generate listener task { r with replies := r.replies.filter Reply.succeeds }).1 =
      (g.generate listener task r).1 := by
  cases htask : task.trim.isEmpty with
  | true => rw [(generate_of_blank htask).1, (generate_of_blank htask).1]
  | false =>
    rw [visits_eq htask] at hkeeps
    have hsame : (AnyStage.runAll g.options.single listener g.stages (initialStore task.trim)
        { r with replies := r.replies.filter Reply.succeeds }).1 = _ := AnyStage.runAll_single hlimit rfl hkeeps
    rw [fst_generate htask, fst_generate htask]
    exact congrArg (Except.map _) hsame

/-- How a generator deals with calls that fail, when a workflow is to be made for a task. -/
structure Retried [Limits] (g : Generator) (listener : Option Listener) (task : Text) (r : Run) : Prop where
  /-- Every stage that is visited makes one call more than fail before the first that succeeds, or as many
  as it has attempts if all of them fail. -/
  bounded : ∀ v ∈ g.visits listener task r, v.KeepsTo g.options
  /-- All calls are made in these visits. -/
  requests : (g.generate listener task r).2.requests =
    r.requests ++ (g.visits listener task r).flatMap Visit.requests
  /-- If a stage gives up, the run ends with the failure of its last attempt, and as the stage leaves it,
  without a call of another stage. -/
  ended : ∀ v ∈ g.visits listener task r, ∀ failure, v.GivesUp g.options failure →
    g.generate listener task r = (.error failure, v.after)
  /-- If none gives up, it comes to the same with single attempts and without the replies that fail. -/
  transparent : (∀ v ∈ g.visits listener task r, ∀ failure, ¬v.GivesUp g.options failure) →
    (g.single.generate listener task { r with replies := r.replies.filter Reply.succeeds }).1 =
      (g.generate listener task r).1
  /-- If there is a result, there are four calls for the four stages, and those that fail. -/
  total : ∀ result, (g.generate listener task r).1 = .ok result →
    (g.visits listener task r).map Visit.stage = stageNames ∧
      (g.generate listener task r).2.calls =
        r.calls + (4 + ((g.visits listener task r).map Visit.failedCalls).sum)

/-- **Retries are bounded, and leave no trace in what comes of a run.** -/
theorem retried_generate [Limits] (hlimit : g.options.timeLimit.isNegative = false) (listener : Option Listener)
    (task : Text) (r : Run) : g.Retried listener task r := by
  have hkeeps : ∀ v ∈ g.visits listener task r, v.KeepsTo g.options :=
    forall_mem_visits_stages fun s _ store r => AnyStage.keepsTo_visit hlimit s listener store r
  refine ⟨hkeeps, requests_generate hkeeps, ?_, generate_single hlimit, ?_⟩
  · intro v hv failure hgives
    obtain ⟨⟨request, hquestion⟩, hall, hlast⟩ := hgives
    obtain ⟨-, failure', ⟨-, -, hlast'⟩, houtcome⟩ := (hkeeps v hv).exhausted hquestion hall
    obtain rfl : failure' = failure := Except.error.inj (hlast'.symm.trans hlast)
    exact generate_of_mem_visits hv houtcome
  · intro result hresult
    obtain ⟨hnames, hok⟩ := visits_of_generate_ok hresult
    refine ⟨hnames, ?_⟩
    have hcalls : ∀ v ∈ g.visits listener task r, v.requests.length = 1 + v.failedCalls := by
      intro v hv
      obtain ⟨store, hstore⟩ := hok v hv
      rw [Nat.add_comm]
      exact Visit.calls_of_ok (hkeeps v hv) hstore
    have hlength : (g.visits listener task r).length = 4 := by
      simpa [stageNames] using congrArg List.length hnames
    calc (g.generate listener task r).2.calls
        = r.calls + ((g.visits listener task r).map fun v => v.requests.length).sum := by
          rw [Run.calls, requests_generate hkeeps, List.length_append, List.length_flatMap, Run.calls]
      _ = r.calls + ((g.visits listener task r).map fun v => 1 + v.failedCalls).sum := by
          rw [List.map_congr_left hcalls]
      _ = r.calls + (4 + ((g.visits listener task r).map Visit.failedCalls).sum) := by
          rw [List.sum_map_add, List.map_const', List.sum_replicate, hlength]
          rfl

/-- A generator with three attempts for each stage. -/
def patient : Generator :=
  .new (.ofList [{ typeId := "clock", displayName := "Clock" }]) Rule.standard { maxRetries := some 3 }

open scoped Limits in
/-- A service that is busy, hangs and breaks down in between makes for three more calls, and one that stays
busy for three. -/
theorem retried_generate_patient :
    patient.options.timeLimit.isNegative = false ∧
      (∀ r, patient.Retried none "water" r) ∧
      (∃ result, (patient.generate none "water" { replies := [.failure "busy", .hang, .text " ", .text " ",
          .crash "down", .text " ", .text " "] }).1 = .ok result) ∧
      (patient.generate none "water" { replies := [.failure "busy", .hang, .text " ", .text " ",
          .crash "down", .text " ", .text " "] }).2.calls = 4 + 3 ∧
      (patient.generate none "water" { replies := [.text " ", .hang, .crash "down", .failure "busy",
          .text " "] }).1 = .error (.transport "busy") ∧
      (patient.generate none "water" { replies := [.text " ", .hang, .crash "down", .failure "busy",
          .text " "] }).2.replies = [.text " "] :=
  ⟨rfl, fun r => retried_generate rfl none "water" r, ⟨_, rfl⟩, rfl, rfl, rfl⟩

end Generator

end Automation
