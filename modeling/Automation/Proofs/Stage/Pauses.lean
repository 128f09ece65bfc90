import Automation.Proofs.Stage.Retries
import Automation.Stage.Decomposition

/-!
# Pauses before retries

An attempt that is told which retry it is pauses before its call. But the attempts of a run are not
told, and all of them count as first ones, so that a run retries without a pause, however long the
first one is to be.

Main statements: `pauses_run`, and a run that retries at once, `pauses_run_flaky`.
-/

namespace Automation

/-! ### What leaves the pauses -/

namespace Run

theorem pauses_call (stage : Text) (limit : Number) (request : CompletionRequest) (r : Run) :
    (r.call stage limit request).2.pauses = r.pauses := by
  unfold call
  split
  · rfl
  · obtain ⟨replies, requests, events, pauses⟩ := r
    cases replies with
    | nil => rfl
    | cons reply replies => cases reply <;> rfl

theorem pauses_tell (listener : Option Listener) (event : ProgressEvent) (r : Run) :
    (r.tell listener event).pauses = r.pauses := by
  unfold tell
  split
  · rfl
  · split <;> rfl

end Run

namespace Stage

variable {ι ο : Type} {o : StageOptions}

/-- An attempt pauses as it has to by the number of the retry that it is told. -/
theorem pauses_attempt [Limits] {retry : Int} {pause : Option Number} (hpause : o.pause retry = .ok pause)
    (s : Stage ι ο) (request : CompletionRequest) (r : Run) :
    (s.attempt o retry request r).2.pauses = r.pauses ++ pause.toList := by
  rw [attempt_of_pause hpause]
  have hcall := Run.pauses_call s.name o.timeLimit request { r with pauses := r.pauses ++ pause.toList }
  rcases hmade : ({ r with pauses := r.pauses ++ pause.toList } : Run).call s.name o.timeLimit request with
    ⟨failure | completion, left⟩
  · rw [hmade] at hcall
    exact hcall
  · rw [hmade] at hcall
    exact hcall

theorem pauses_attempts [Limits] (s : Stage ι ο) (o : StageOptions) (request : CompletionRequest) (retries : Nat)
    (r : Run) : (s.attempts o request retries r).2.pauses = r.pauses := by
  have hpause : o.pause 0 = .ok none := by simp [StageOptions.pause]
  refine rel_attempts (R := fun before after => after.pauses = before.pauses) ?_ ?_ retries r
  · intro r₁ r₂ r₃ h₁ h₂
    exact h₂.trans h₁
  · intro r
    simpa using pauses_attempt hpause s request r

/-- **No run pauses**, whatever it retries: behind `k` failed attempts it has made `k + 1` calls, but
not a pause, though each retry would have paused if it had been told its number. -/
theorem pauses_run [Limits] (s : Stage ι ο) (o : StageOptions) (listener : Option Listener) (store : Store)
    (r : Run) : (s.run o listener store r).2.pauses = r.pauses ∧
      (∀ {input request k}, o.timeLimit.isNegative = false → s.prepare store = .ok (input, request) →
        k < o.attempts → (∀ j < k, r.failsAt j = true) → r.failsAt k = false →
        (s.run o listener store r).2.requests = r.requests ++ List.replicate (k + 1) request) ∧
      ∀ {retry : Int} {request delay}, 0 < retry → o.backoff.isPositive = true →
        o.backoff.double (retry - 1) = some delay →
        (s.attempt o retry request r).2.pauses = r.pauses ++ [delay] := by
  refine ⟨?_, ?_, ?_⟩
  · have htold := Run.pauses_tell listener s.event r
    cases hprepare : s.prepare store with
    | error failure =>
      rw [run_of_unprepared hprepare]
      exact htold
    | ok prepared =>
      rw [snd_run_of_prepared hprepare, pauses_attempts]
      exact htold
  · intro input request k hlimit hprepare hk hfirst hsuccess
    obtain ⟨finding, hanswer⟩ := Run.exists_answer_ok hsuccess s.name o.timeLimit
    rw [run_of_success hlimit hprepare hk hfirst hanswer, Run.requests_afterCalls, Run.requests_tell]
  · intro retry request delay hretry hpositive hdelay
    have hpause : o.pause retry = .ok (some delay) := by
      rw [StageOptions.pause, if_neg (by simp [hpositive]; omega), hdelay]
    exact pauses_attempt hpause s request r

open scoped Limits in
/-- A task is taken apart at the second attempt without a pause of one second before it. -/
theorem pauses_run_flaky :
    ∃ store r', decomposition.run { maxRetries := some 2, wait := some (.int 1) } none { task := some "water" }
        { replies := [.failure "busy", .text " "] } = (.ok store, r') ∧
      r'.calls = 2 ∧ r'.pauses ≠ [.int 1] ∧ r'.pauses = [] :=
  ⟨_, _, rfl, rfl, nofun, rfl⟩

end Stage

end Automation
