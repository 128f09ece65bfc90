import Automation.Proofs.Stage.Attempts
import Automation.Proofs.Stage.Outcome

/-!
# How many calls a stage makes

Whether an attempt succeeds is up to the reply that its call gets. So the attempts of a stage go the
way its next replies tell: it calls until the first reply that can be read, and gives up after as many
calls as it has attempts (`course_run`). Nothing is paused between the calls.

A time limit below zero is left out here, as with that no call is made at all.
-/

namespace Automation

/-! ### Attempts that are asked for -/

namespace StageOptions

/-- The number of attempts of a stage: the number that is asked for, where a missing one and zero count
as one, but at least one. -/
def attempts (o : StageOptions) : Nat :=
  (max 1 (if o.maxRetries.getD 0 = 0 then 1 else o.maxRetries.getD 0)).toNat

theorem attempts_eq (o : StageOptions) : o.attempts = o.retries + 1 := by
  unfold attempts retries
  split <;> omega

end StageOptions

/-! ### Calls and replies -/

/-- Whether a call succeeds that gets a reply: the service answers with a text that can be read. -/
def Reply.succeeds [Limits] : Reply → Bool
  | .text completion => (Completion.read completion).isOk
  | .failure _ | .crash _ | .hang => false

namespace Run

variable {request : CompletionRequest} {r : Run}

/-- Whether the call behind `n` more calls fails: it gets no reply, or one that does not succeed. -/
def failsAt [Limits] (r : Run) (n : Nat) : Bool :=
  !r.replies[n]?.any Reply.succeeds

/-- What a stage with a time limit makes of what it gets for a call, where nothing is got of a service
that cannot be reached any more. -/
def answer [Limits] (stage : Text) (limit : Number) : Option Reply → Except Failure Completion.Finding
  | none => .error (.transport "script exhausted")
  | some (.text completion) => (Completion.read completion).mapError Failure.beyond
  | some (.failure message) => .error (.transport message)
  | some (.crash message) => .error (.crash message)
  | some .hang => .error (.transport (timeoutMessage stage limit))

/-- A run after some calls with one request. -/
def afterCalls (n : Nat) (request : CompletionRequest) (r : Run) : Run :=
  { r with replies := r.replies.drop n, requests := r.requests ++ List.replicate n request }

@[simp] theorem replies_afterCalls (n : Nat) : (r.afterCalls n request).replies = r.replies.drop n := rfl

@[simp] theorem requests_afterCalls (n : Nat) :
    (r.afterCalls n request).requests = r.requests ++ List.replicate n request := rfl

theorem afterCalls_afterCalls (n k : Nat) :
    (r.afterCalls n request).afterCalls k request = r.afterCalls (n + k) request := by
  simp [afterCalls, List.drop_drop, List.append_assoc]

@[simp] theorem failsAt_afterCalls [Limits] (n k : Nat) :
    (r.afterCalls n request).failsAt k = r.failsAt (n + k) := by
  simp [failsAt]

@[simp] theorem failsAt_tell [Limits] (listener : Option Listener) (event : ProgressEvent) (n : Nat) :
    (r.tell listener event).failsAt n = r.failsAt n := by
  simp [failsAt]

@[simp] theorem requests_tell (listener : Option Listener) (event : ProgressEvent) :
    (r.tell listener event).requests = r.requests := by
  unfold tell
  split
  · rfl
  · split <;> rfl

theorem isOk_answer [Limits] (stage : Text) (limit : Number) (reply : Option Reply) :
    (answer stage limit reply).isOk = reply.any Reply.succeeds := by
  match reply with
  | none => rfl
  | some (.text completion) =>
    show ((Completion.read completion).mapError Failure.beyond).isOk = (Completion.read completion).isOk
    cases Completion.read completion <;> rfl
  | some (.failure message) => rfl
  | some (.crash message) => rfl
  | some .hang => rfl

/-- A call that does not fail is answered. -/
theorem exists_answer_ok [Limits] {n : Nat} (h : r.failsAt n = false) (stage : Text) (limit : Number) :
    ∃ finding, answer stage limit r.replies[n]? = .ok finding := by
  have hok := isOk_answer stage limit r.replies[n]?
  cases hanswer : answer stage limit r.replies[n]? with
  | ok finding => exact ⟨finding, rfl⟩
  | error failure => rw [hanswer] at hok; simp [failsAt, ← hok, Except.isOk, Except.toBool] at h

/-- A call that fails is not answered. -/
theorem exists_answer_error [Limits] {n : Nat} (h : r.failsAt n = true) (stage : Text) (limit : Number) :
    ∃ failure, answer stage limit r.replies[n]? = .error failure := by
  have hok := isOk_answer stage limit r.replies[n]?
  cases hanswer : answer stage limit r.replies[n]? with
  | error failure => exact ⟨failure, rfl⟩
  | ok finding => rw [hanswer] at hok; simp [failsAt, ← hok, Except.isOk, Except.toBool] at h

/-- Either some call among the next ones succeeds, and a first one does, or all of them fail. -/
theorem first_success_or_all_fail [Limits] (r : Run) (m : Nat) :
    (∃ k < m, (∀ j < k, r.failsAt j = true) ∧ r.failsAt k = false) ∨ ∀ j < m, r.failsAt j = true := by
  induction m with
  | zero => exact .inr nofun
  | succ m ih =>
    rcases ih with ⟨k, hk, hfirst⟩ | hall
    · exact .inl ⟨k, by omega, hfirst⟩
    · cases hm : r.failsAt m with
      | false => exact .inl ⟨m, by omega, hall, hm⟩
      | true =>
        right
        intro j hj
        rcases Nat.lt_succ_iff_lt_or_eq.1 hj with hlt | rfl
        · exact hall j hlt
        · exact hm

end Run

/-! ### Attempts -/

namespace Stage

variable [Limits] {ι ο : Type} {s : Stage ι ο} {o : StageOptions} {listener : Option Listener} {store : Store}
  {r : Run} {input : ι} {request : CompletionRequest} {finding : Completion.Finding} {failure : Failure}
  {retries k : Nat}

/-- An attempt makes one call, and comes to what is answered. -/
theorem attempt_eq (hlimit : o.timeLimit.isNegative = false) (s : Stage ι ο) (request : CompletionRequest)
    (r : Run) :
    s.attempt o 0 request r = (Run.answer s.name o.timeLimit r.replies[0]?, r.afterCalls 1 request) := by
  rw [attempt_zero, Run.call, hlimit]
  obtain ⟨replies, requests, events, pauses⟩ := r
  cases replies with
  | nil => rfl
  | cons reply replies => cases reply <;> rfl

/-- How a run stands to the one behind some attempts, if it stands so to the one behind each. -/
theorem rel_attempts {R : Run → Run → Prop} (htrans : ∀ {r₁ r₂ r₃}, R r₁ r₂ → R r₂ r₃ → R r₁ r₃)
    (hattempt : ∀ r, R r (s.attempt o 0 request r).2) (retries : Nat) (r : Run) :
    R r (s.attempts o request retries r).2 := by
  induction retries generalizing r with
  | zero => exact hattempt r
  | succ retries ih =>
    have hhead := hattempt r
    rw [attempts]
    rcases hfirst : s.attempt o 0 request r with ⟨failure | finding, left⟩
    · rw [hfirst] at hhead
      exact htrans hhead (ih left)
    · rw [hfirst] at hhead
      exact hhead

/-- Attempts end with the first call that succeeds. -/
theorem attempts_of_success (request : CompletionRequest) (hlimit : o.timeLimit.isNegative = false) (hk : k ≤ retries)
    (hfirst : ∀ j < k, r.failsAt j = true) (hanswer : Run.answer s.name o.timeLimit r.replies[k]? = .ok finding) :
    s.attempts o request retries r = (.ok finding, r.afterCalls (k + 1) request) := by
  induction retries generalizing r k with
  | zero =>
    obtain rfl : k = 0 := by omega
    rw [attempts, attempt_eq hlimit, hanswer]
  | succ retries ih =>
    cases k with
    | zero => rw [attempts, attempt_eq hlimit, hanswer]
    | succ k =>
      obtain ⟨failure, hfailure⟩ := Run.exists_answer_error (hfirst 0 (by omega)) s.name o.timeLimit
      rw [attempts, attempt_eq hlimit, hfailure]
      have hrest := ih (r := r.afterCalls 1 request) (k := k) (by omega)
        (fun j hj => by simpa using hfirst (1 + j) (by omega))
        (by simpa [Nat.add_comm 1 k] using hanswer)
      simpa [Run.afterCalls_afterCalls, Nat.add_comm 1] using hrest

/-- If all calls fail, the failure of the last one counts. -/
theorem attempts_of_failures (request : CompletionRequest) (hlimit : o.timeLimit.isNegative = false)
    (hall : ∀ j ≤ retries, r.failsAt j = true)
    (hlast : Run.answer s.name o.timeLimit r.replies[retries]? = .error failure) :
    s.attempts o request retries r = (.error failure, r.afterCalls (retries + 1) request) := by
  induction retries generalizing r with
  | zero => rw [attempts, attempt_eq hlimit, hlast]
  | succ retries ih =>
    obtain ⟨first, hfirst⟩ := Run.exists_answer_error (hall 0 (by omega)) s.name o.timeLimit
    rw [attempts, attempt_eq hlimit, hfirst]
    have hrest := ih (r := r.afterCalls 1 request) (fun j hj => by simpa using hall (1 + j) (by omega))
      (by simpa [Nat.add_comm 1 retries] using hlast)
    simpa [Run.afterCalls_afterCalls, Nat.add_comm 1] using hrest

/-! ### Courses -/

/-- A stage without a request makes no call. -/
theorem run_of_unprepared (hprepare : s.prepare store = .error failure) :
    s.run o listener store r = (.error failure, r.tell listener s.event) := by
  rw [run, hprepare]

/-- A stage with a request leaves the run as its attempts do. -/
theorem snd_run_of_prepared (hprepare : s.prepare store = .ok (input, request)) :
    (s.run o listener store r).2 = (s.attempts o request o.retries (r.tell listener s.event)).2 := by
  rw [run, hprepare]
  rcases hattempts : s.attempts o request o.retries (r.tell listener s.event) with ⟨failure | finding, left⟩
  · simp only [hattempts]
  · simp only [hattempts]

/-- A stage goes on with what it finds at the first call that succeeds. -/
theorem run_of_success (hlimit : o.timeLimit.isNegative = false) (hprepare : s.prepare store = .ok (input, request))
    (hk : k < o.attempts) (hfirst : ∀ j < k, r.failsAt j = true)
    (hanswer : Run.answer s.name o.timeLimit r.replies[k]? = .ok finding) :
    s.run o listener store r =
      (s.finish store input finding, (r.tell listener s.event).afterCalls (k + 1) request) := by
  have hretries : k ≤ o.retries := by
    rw [o.attempts_eq] at hk
    omega
  have hattempts := attempts_of_success (r := r.tell listener s.event) request hlimit hretries
    (by simpa using hfirst) (by simpa using hanswer)
  rw [run, hprepare]
  simp only [hattempts]

/-- A stage gives up with the failure of its last attempt. -/
theorem run_of_failures (hlimit : o.timeLimit.isNegative = false) (hprepare : s.prepare store = .ok (input, request))
    (hall : ∀ j < o.attempts, r.failsAt j = true)
    (hlast : Run.answer s.name o.timeLimit r.replies[o.attempts - 1]? = .error failure) :
    s.run o listener store r = (.error failure, (r.tell listener s.event).afterCalls o.attempts request) := by
  rw [o.attempts_eq] at hall hlast
  have hattempts := attempts_of_failures (r := r.tell listener s.event) request hlimit
    (by simpa [Nat.lt_succ_iff] using hall) (by simpa using hlast)
  rw [run, hprepare, o.attempts_eq]
  simp only [hattempts]

/-- The courses that a stage can take from a store and a run: what comes of it, and the run it leaves.
-/
inductive Course (s : Stage ι ο) (o : StageOptions) (listener : Option Listener) (store : Store) (r : Run) :
    Except Failure Store → Run → Prop where
  /-- It has nothing to ask, and makes no call. -/
  | unprepared {failure : Failure} : s.prepare store = .error failure →
    Course s o listener store r (.error failure) (r.tell listener s.event)
  /-- A call succeeds behind `k` ones that fail. -/
  | answered {input : ι} {request : CompletionRequest} {k : Nat} {finding : Completion.Finding} :
    s.prepare store = .ok (input, request) → k < o.attempts → (∀ j < k, r.failsAt j = true) →
    r.failsAt k = false → Run.answer s.name o.timeLimit r.replies[k]? = .ok finding →
    Course s o listener store r (s.finish store input finding)
      ((r.tell listener s.event).afterCalls (k + 1) request)
  /-- As many calls fail as it has attempts. -/
  | exhausted {input : ι} {request : CompletionRequest} {failure : Failure} :
    s.prepare store = .ok (input, request) → (∀ j < o.attempts, r.failsAt j = true) →
    Run.answer s.name o.timeLimit r.replies[o.attempts - 1]? = .error failure →
    Course s o listener store r (.error failure) ((r.tell listener s.event).afterCalls o.attempts request)

/-- A run takes one of these courses. -/
theorem course_run (hlimit : o.timeLimit.isNegative = false) (s : Stage ι ο) (listener : Option Listener)
    (store : Store) (r : Run) :
    s.Course o listener store r (s.run o listener store r).1 (s.run o listener store r).2 := by
  cases hprepare : s.prepare store with
  | error failure =>
    rw [run_of_unprepared hprepare]
    exact .unprepared hprepare
  | ok prepared =>
    obtain ⟨input, request⟩ := prepared
    rcases r.first_success_or_all_fail o.attempts with ⟨k, hk, hfirst, hsuccess⟩ | hall
    · obtain ⟨finding, hanswer⟩ := Run.exists_answer_ok hsuccess s.name o.timeLimit
      rw [run_of_success hlimit hprepare hk hfirst hanswer]
      exact .answered hprepare hk hfirst hsuccess hanswer
    · have hpos : o.attempts - 1 < o.attempts := by
        rw [o.attempts_eq]
        omega
      obtain ⟨failure, hlast⟩ := Run.exists_answer_error (hall _ hpos) s.name o.timeLimit
      rw [run_of_failures hlimit hprepare hall hlast]
      exact .exhausted hprepare hall hlast

end Stage

end Automation
