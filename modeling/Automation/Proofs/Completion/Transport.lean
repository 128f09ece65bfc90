import Automation.Completion.Proxy

/-!
# What a proxy can do to a completion

A proxy may take too long or not be reached, and may answer with any status and any text. A completion comes out
only of an answer whose status tells of no error and whose text is an object with a text under `text`. Everything
else is told as a failure of the service, with two exceptions: a breakdown that nobody foresees, and a document
with too many levels. The reader gives up such a document in a way of its own, which is neither a flaw of the
text nor an overlong integer (`read_brackets`).

Main statement: `transported_completion`.
-/

namespace Automation

namespace Json

/-- Opening brackets and nothing between them. -/
def brackets (n : Nat) : Text :=
  List.replicate n '['

/-- More brackets than there may be levels are given up, whatever comes behind them. -/
theorem readValue_brackets (depth : Nat) (t : Text) :
    readValue depth (brackets (depth + 1) ++ t) = .error (.beyond .depth) := by
  induction depth with
  | zero => rfl
  | succ depth ih =>
    -- behind the first bracket the first item of the array begins, with the other brackets
    have harray : readValue (depth + 1) (brackets (depth + 2) ++ t) =
        (readItems (readValue depth) ((brackets depth ++ t).length + 1) (brackets (depth + 1) ++ t)).map
          fun found => (array found.1, found.2) := rfl
    rw [harray, readItems, ih]
    rfl

theorem read_brackets [Limits] {n : Nat} (h : Limits.nesting < n) :
    read (brackets n) = .error (.beyond .depth) := by
  obtain ⟨more, rfl⟩ := Nat.exists_eq_add_of_lt h
  have hsplit : brackets (Limits.nesting + more + 1) = brackets (Limits.nesting + 1) ++ brackets more := by
    rw [brackets, brackets, brackets, List.replicate_append_replicate, Nat.add_right_comm]
  have hmark : (brackets (Limits.nesting + 1) ++ brackets more).head? ≠ some (.ofChar '\ufeff') := by
    rw [brackets, List.replicate_succ, List.cons_append, List.head?_cons]
    decide
  have hspace : skipSpace (brackets (Limits.nesting + 1) ++ brackets more) =
      brackets (Limits.nesting + 1) ++ brackets more :=
    rfl
  rw [hsplit, read, readWithin, if_neg (by exact hmark), hspace, readValue_brackets]
  rfl

end Json

namespace ProxyService

variable {p : ProxyService} {reply : ProxyReply} {document : Json} {body text : Text} {status : Int}

/-! ### What an answer holds -/

/-- The status of an answer tells of an error. -/
def IsErrorStatus (status : Int) : Prop :=
  400 ≤ status ∧ status < 600

/-- A document is an object with a text under `text`. -/
def Holds (document : Json) (text : Text) : Prop :=
  ∃ members, document = .object members ∧ Members.get? members "text" = some (.text text)

/-- A text comes with an answer: the status tells of no error, and the answer is a document that holds the text. -/
def Delivers [Limits] (reply : ProxyReply) (text : Text) : Prop :=
  ∃ status reason body document, reply = .answer status reason (.text body) ∧ ¬IsErrorStatus status ∧
    Json.read body = .ok document ∧ Holds document text

/-- An answer whose status tells of no error has too many levels. -/
def IsTooDeep [Limits] (reply : ProxyReply) : Prop :=
  ∃ status reason body, reply = .answer status reason (.text body) ∧ ¬IsErrorStatus status ∧
    Json.read body = .error (.beyond .depth)

theorem errorKind?_eq_none_iff : errorKind? status = none ↔ ¬IsErrorStatus status := by
  rw [errorKind?, IsErrorStatus]
  split
  · simp only [reduceCtorEq, false_iff]
    omega
  · split
    · simp only [reduceCtorEq, false_iff]
      omega
    · simp only [true_iff]
      omega

/-- Without a text that it holds, a document is told as a failure of the service. -/
theorem completionIn_cases (document : Json) :
    (∃ text, Holds document text ∧ completionIn document = .ok text) ∨
      (∀ text, ¬Holds document text) ∧ completionIn document = .error noText := by
  unfold completionIn
  split
  · next members =>
    split
    · next text htext => exact .inl ⟨text, ⟨members, rfl, htext⟩, rfl⟩
    · next hnone =>
      refine .inr ⟨?_, rfl⟩
      rintro text ⟨_, heq, htext⟩
      cases heq
      exact hnone text htext
  · next hother =>
    refine .inr ⟨?_, rfl⟩
    rintro text ⟨members, rfl, -⟩
    exact hother members rfl

theorem delivers_answer_iff [Limits] {reason : Text} : Delivers (.answer status reason (.text body)) text ↔
    ¬IsErrorStatus status ∧ ∃ document, Json.read body = .ok document ∧ Holds document text := by
  constructor
  · rintro ⟨_, _, _, document, heq, hstatus, hread, hholds⟩
    cases heq
    exact ⟨hstatus, document, hread, hholds⟩
  · rintro ⟨hstatus, document, hread, hholds⟩
    exact ⟨_, _, _, document, rfl, hstatus, hread, hholds⟩

theorem isTooDeep_answer_iff [Limits] {reason : Text} : IsTooDeep (.answer status reason (.text body)) ↔
    ¬IsErrorStatus status ∧ Json.read body = .error (.beyond .depth) := by
  constructor
  · rintro ⟨_, _, _, heq, hstatus, hread⟩
    cases heq
    exact ⟨hstatus, hread⟩
  · rintro ⟨hstatus, hread⟩
    exact ⟨_, _, _, rfl, hstatus, hread⟩

/-! ### How a call ends -/

/-- How a call of a proxy ends, given what the proxy does. -/
inductive Ends [Limits] (p : ProxyService) (reply : ProxyReply) : Prop where
  /-- With the text that comes with the answer. -/
  | delivered {text : Text} : Delivers reply text → p.completion reply = .ok text → Ends p reply
  /-- With a document that is given up. -/
  | tooDeep : IsTooDeep reply → p.completion reply = .error (.beyond .depth) → Ends p reply
  /-- With an unforeseen breakdown. -/
  | crashed {message : Text} : reply = .crash message → p.completion reply = .error (.crash message) → Ends p reply
  /-- With a failure of the service. -/
  | failed {message : Text} : (∀ text, ¬Delivers reply text) → ¬IsTooDeep reply → (∀ told, reply ≠ .crash told) →
    p.completion reply = .error (.transport message) → Ends p reply

theorem ends_text [Limits] (p : ProxyService) (hstatus : ¬IsErrorStatus status) (reason body : Text) :
    Ends p (.answer status reason (.text body)) := by
  have hcompletion : p.completion (.answer status reason (.text body)) = readBody (.text body) := by
    rw [completion, errorKind?_eq_none_iff.2 hstatus]
  cases hread : Json.read body with
  | ok document =>
    rw [readBody, hread] at hcompletion
    have hdeep : ¬IsTooDeep (.answer status reason (.text body)) := by
      rw [isTooDeep_answer_iff, hread]
      rintro ⟨-, h⟩
      cases h
    rcases completionIn_cases document with ⟨text, hholds, hin⟩ | ⟨hnone, hin⟩
    · exact .delivered (delivers_answer_iff.2 ⟨hstatus, document, hread, hholds⟩) (hcompletion.trans hin)
    · refine .failed (fun text h => ?_) hdeep nofun (hcompletion.trans hin)
      obtain ⟨-, found, hfound, hholds⟩ := delivers_answer_iff.1 h
      cases hread.symm.trans hfound
      exact hnone text hholds
  | error fault =>
    rw [readBody, hread] at hcompletion
    have hnone : ∀ text, ¬Delivers (.answer status reason (.text body)) text := by
      rintro text h
      obtain ⟨-, found, hfound, -⟩ := delivers_answer_iff.1 h
      cases hread.symm.trans hfound
    have hdeep : IsTooDeep (.answer status reason (.text body)) ↔ fault = .beyond .depth := by
      rw [isTooDeep_answer_iff, hread, Except.error.injEq]
      exact and_iff_right hstatus
    cases fault with
    | malformed flaw left => exact .failed hnone (by rw [hdeep]; nofun) nofun hcompletion
    | beyond limit =>
      cases limit with
      | depth => exact .tooDeep (hdeep.2 rfl) hcompletion
      | digits count => exact .failed hnone (by rw [hdeep]; nofun) nofun hcompletion

theorem ends_completion [Limits] (p : ProxyService) (reply : ProxyReply) : Ends p reply := by
  cases reply with
  | answer status reason body =>
    by_cases hstatus : IsErrorStatus status
    · obtain ⟨kind, hkind⟩ := Option.ne_none_iff_exists'.1 (mt errorKind?_eq_none_iff.1 (not_not_intro hstatus))
      refine .failed ?_ ?_ nofun (by rw [completion, hkind]; rfl)
      · rintro text ⟨_, _, _, _, heq, hok, -⟩
        cases heq
        exact hok hstatus
      · rintro ⟨_, _, _, heq, hok, -⟩
        cases heq
        exact hok hstatus
    · cases body with
      | text body => exact ends_text p hstatus reason body
      | unreadable =>
        have hcompletion : p.completion (.answer status reason .unreadable) = .error noDocument := by
          rw [completion, errorKind?_eq_none_iff.2 hstatus, readBody]
        exact .failed nofun nofun nofun hcompletion
  | timeout => exact .failed nofun nofun nofun rfl
  | unreachable message => exact .failed nofun nofun nofun rfl
  | garbled => exact .failed nofun nofun nofun rfl
  | crash message => exact .crashed rfl rfl

theorem Delivers.unique [Limits] {text' : Text} (h : Delivers reply text) (h' : Delivers reply text') :
    text = text' := by
  obtain ⟨status, reason, body, document, rfl, hstatus, hread, members, rfl, htext⟩ := h
  obtain ⟨-, found, hread', members', rfl, htext'⟩ := delivers_answer_iff.1 h'
  cases hread.symm.trans hread'
  cases htext.symm.trans htext'
  rfl

theorem Delivers.not_isTooDeep [Limits] (h : Delivers reply text) : ¬IsTooDeep reply := by
  obtain ⟨status, reason, body, document, rfl, -, hread, -⟩ := h
  rw [isTooDeep_answer_iff, hread]
  rintro ⟨-, hdeep⟩
  cases hdeep

/-- **A call of a proxy gives the text that comes with the answer, or tells of a failure of the service**, unless
the answer has too many levels or the proxy breaks down in an unforeseen way. It gives a text if and only if the
status is none from 400 up to 599 and the answer is an object with that text under `text`. An answer with too many
levels and an unforeseen breakdown leave the call as what they are. -/
theorem transported_completion [Limits] (p : ProxyService) (reply : ProxyReply) :
    (∀ text, p.completion reply = .ok text ↔ Delivers reply text) ∧
      ((∃ message, p.completion reply = .error (.transport message)) ↔
        (∀ text, ¬Delivers reply text) ∧ ¬IsTooDeep reply ∧ ∀ message, reply ≠ .crash message) ∧
      (p.completion reply = .error (.beyond .depth) ↔ IsTooDeep reply) ∧
      ∀ message, p.completion reply = .error (.crash message) ↔ reply = .crash message := by
  cases ends_completion p reply with
  | @delivered text h heq =>
    rw [heq]
    refine ⟨fun text' => ⟨fun e => ?_, fun h' => ?_⟩, iff_of_false nofun fun hall => hall.1 text h,
      iff_of_false nofun h.not_isTooDeep, fun message => iff_of_false nofun ?_⟩
    · cases e
      exact h
    · rw [h.unique h']
    · rintro rfl
      exact nomatch h
  | tooDeep h heq =>
    rw [heq]
    refine ⟨fun text' => iff_of_false nofun fun h' => h'.not_isTooDeep h, iff_of_false nofun fun hall => hall.2.1 h,
      iff_of_true rfl h, fun message => iff_of_false nofun ?_⟩
    rintro rfl
    exact nomatch h
  | @crashed message h heq =>
    rw [heq, h]
    refine ⟨fun text' => iff_of_false nofun nofun, iff_of_false nofun fun hall => hall.2.2 message rfl,
      iff_of_false nofun nofun, fun told => ?_⟩
    simp
  | failed hnone hdeep hcrash heq =>
    rw [heq]
    exact ⟨fun text => iff_of_false nofun (hnone text), iff_of_true ⟨_, rfl⟩ ⟨hnone, hdeep, hcrash⟩,
      iff_of_false nofun hdeep, fun message => iff_of_false nofun (hcrash message)⟩

open scoped Limits in
/-- An answer of brackets alone gives no text, and is not told as a failure of the service either. -/
theorem not_transported_brackets :
    ¬((∃ text, (ofSettings []).completion (.answer 200 "OK" (.text (Json.brackets 6000))) = .ok text) ∨
      ∃ message, (ofSettings []).completion (.answer 200 "OK" (.text (Json.brackets 6000))) =
        .error (.transport message)) := by
  have hdeep : Json.read (Json.brackets 6000) = .error (.beyond .depth) :=
    Json.read_brackets (show Limits.nesting < 6000 by decide)
  have hcompletion : (ofSettings []).completion (.answer 200 "OK" (.text (Json.brackets 6000))) =
      .error (.beyond .depth) := by
    have hstatus : errorKind? 200 = none := by decide
    rw [completion, hstatus, readBody, hdeep]
  rw [hcompletion]
  rintro (⟨text, h⟩ | ⟨message, h⟩) <;> cases h

end ProxyService

end Automation
