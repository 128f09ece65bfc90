import Automation.Stage.Basic

/-!
# Attempts and replies

A call uses up one reply of the service, or none if the time limit does not allow any. What an
attempt finds is read from the reply it used up, and a stage goes on with what its last attempt
found (`attempts_ok`).
-/

namespace Automation

namespace Run

variable {stage : Text} {limit : Number} {request : CompletionRequest} {r r' : Run} {completion : Text}
  {failure : Failure}

/-- A call that completes a text used up the reply with it. -/
theorem replies_of_call_ok (h : r.call stage limit request = (.ok completion, r')) :
    r.replies = .text completion :: r'.replies := by
  unfold call at h
  split at h
  · cases h
  · obtain ⟨replies, requests, events, pauses⟩ := r
    cases replies with
    | nil => cases h
    | cons reply replies =>
      cases reply with
      | text completion =>
        obtain ⟨hcompletion, rfl⟩ := Prod.mk.inj h
        rw [Except.ok.inj hcompletion]
        rfl
      | failure | crash | hang => cases h

/-- Whatever a call does, it leaves an end of the replies. -/
theorem replies_of_call {result : Except Failure Text} (h : r.call stage limit request = (result, r')) :
    r'.replies <:+ r.replies := by
  unfold call at h
  split at h
  · obtain ⟨-, rfl⟩ := Prod.mk.inj h
    exact List.suffix_rfl
  · obtain ⟨replies, requests, events, pauses⟩ := r
    have hdrop : r'.replies = replies.drop 1 := by
      cases replies with
      | nil => obtain ⟨-, rfl⟩ := Prod.mk.inj h; rfl
      | cons reply replies => cases reply <;> obtain ⟨-, rfl⟩ := Prod.mk.inj h <;> rfl
    rw [hdrop]
    exact List.drop_suffix 1 replies

@[simp] theorem replies_tell (listener : Option Listener) (event : ProgressEvent) (r : Run) :
    (r.tell listener event).replies = r.replies := by
  unfold tell
  split
  · rfl
  · split <;> rfl

end Run

namespace Stage

variable {ι ο : Type} {s : Stage ι ο} {o : StageOptions} {request : CompletionRequest} {r r' : Run}
  {finding : Completion.Finding} [Limits]

/-- An attempt is a call behind its pause. -/
theorem attempt_of_pause {retry : Int} {pause : Option Number} (hpause : o.pause retry = .ok pause) (r : Run) :
    s.attempt o retry request r =
      match ({ r with pauses := r.pauses ++ pause.toList } : Run).call s.name o.timeLimit request with
      | (.error failure, r) => (.error failure, r)
      | (.ok completion, r) => ((Completion.read completion).mapError Failure.beyond, r) := by
  unfold attempt
  generalize o.pause retry = paused at hpause ⊢
  subst hpause
  rfl

/-- An attempt that is no retry is a call without a pause. -/
theorem attempt_zero (r : Run) : s.attempt o 0 request r =
    match r.call s.name o.timeLimit request with
    | (.error failure, r) => (.error failure, r)
    | (.ok completion, r) => ((Completion.read completion).mapError Failure.beyond, r) := by
  have hpause : o.pause 0 = .ok none := by simp [StageOptions.pause]
  have hpaused : { r with pauses := r.pauses ++ (none : Option Number).toList } = r := by simp
  rw [attempt_of_pause hpause, hpaused]

/-- What an attempt finds is read from the reply that it used up. -/
theorem attempt_ok (h : s.attempt o 0 request r = (.ok finding, r')) :
    ∃ completion, r.replies = .text completion :: r'.replies ∧ Completion.read completion = .ok finding := by
  rw [attempt_zero] at h
  rcases hcall : r.call s.name o.timeLimit request with ⟨_ | completion, left⟩
  · rw [hcall] at h
    cases h
  · rw [hcall] at h
    obtain ⟨hread, rfl⟩ := Prod.mk.inj h
    refine ⟨completion, Run.replies_of_call_ok hcall, ?_⟩
    cases hfound : Completion.read completion with
    | error limit => rw [hfound] at hread; cases hread
    | ok found => rw [hfound] at hread; rw [Except.ok.inj hread]

theorem replies_attempt (s : Stage ι ο) (o : StageOptions) (request : CompletionRequest) (r : Run) :
    (s.attempt o 0 request r).2.replies <:+ r.replies := by
  rw [attempt_zero]
  rcases hcall : r.call s.name o.timeLimit request with ⟨_ | completion, left⟩
  · exact Run.replies_of_call hcall
  · exact Run.replies_of_call hcall

/-- A stage goes on with what is read from the last of the replies that its attempts used up. -/
theorem attempts_ok {retries : Nat} (h : s.attempts o request retries r = (.ok finding, r')) :
    ∃ used completion, r.replies = used ++ .text completion :: r'.replies ∧
      Completion.read completion = .ok finding := by
  induction retries generalizing r with
  | zero =>
    obtain ⟨completion, hreplies, hread⟩ := attempt_ok h
    exact ⟨[], completion, hreplies, hread⟩
  | succ retries ih =>
    rw [attempts] at h
    rcases hattempt : s.attempt o 0 request r with ⟨_ | found, left⟩
    · rw [hattempt] at h
      obtain ⟨used, completion, hleft, hread⟩ := ih h
      obtain ⟨before, hbefore⟩ := replies_attempt s o request r
      rw [hattempt] at hbefore
      exact ⟨before ++ used, completion, by rw [← hbefore, hleft, List.append_assoc], hread⟩
    · rw [hattempt] at h
      obtain ⟨rfl, rfl⟩ : found = finding ∧ left = r' := by simpa using h
      obtain ⟨completion, hreplies, hread⟩ := attempt_ok hattempt
      exact ⟨[], completion, hreplies, hread⟩

end Stage

end Automation
