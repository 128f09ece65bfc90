import Automation.Proofs.Stage.Attempts
import Automation.Proofs.Stage.Settlement
import Automation.Proofs.Step.Guard
import Automation.Proofs.Step.Merge
import Mathlib

/-!
# What a revision keeps

The service may reorder, drop, repeat or invent steps. A revision that is accepted still begins with
the trigger, and every error handler in it stands behind the step that it is known to guard. The check
is made before parallel steps are merged. Merging leaves triggers and handlers alone and folds the step
before a handler into the step before the handler, so what was checked holds of the output as well.

Main statement: `revision_kept_or_declined`.
-/

namespace Automation

namespace Step

variable {s handler : Step} {steps plan revised front back : List Step}

/-! ### Safe revisions -/

/-- What a revised plan keeps of a plan, given the steps that were put in order before they were
merged. -/
structure Keeps (plan revised output : List Step) : Prop where
  /-- The steps are numbered from one. -/
  indices : output.map index = List.range' 1 output.length
  /-- The first step is a trigger. -/
  leading : hasLeadingTrigger output = true
  /-- It is of the same type as the one that the plan started with, if it did with a trigger. -/
  leadingType : ∀ old ∈ plan.head?, old.isTrigger → ∀ new ∈ output.head?, new.nodeType = old.nodeType
  /-- Every error handler is there, perhaps with another number. -/
  handlers : ∀ handler ∈ revised, handler.isErrorHandler → ∃ i, { handler with index := i } ∈ output
  /-- A handler that is recognised as one that guarded a step of the plan stands behind a step that is
  recognised as such a step, and in the output behind the step into which that one was folded. -/
  guarded : ∀ front handler back, revised = front ++ handler :: back → handler.isErrorHandler →
    (∃ g ∈ guards plan, g.2.identity = handler.identity) →
    ∃ earlier s, front = earlier ++ [s] ∧
      (∃ g ∈ guards plan, g.2.identity = handler.identity ∧ g.1.identity = s.identity) ∧
      ∃ before run after, runs revised = before ++ (run ++ [s]) :: [handler] :: after ∧
        before.flatten ++ run = earlier ∧
        output[before.length]? = some { folded (run ++ [s]) with index := before.length + 1 } ∧
        output[before.length + 1]? = some { handler with index := before.length + 2 }

theorem exists_of_triggerPreserved (h : triggerPreserved plan revised = true) :
    ∃ first rest, revised = first :: rest ∧ first.isTrigger ∧
      ∀ old ∈ plan.head?, old.isTrigger → first.nodeType = old.nodeType := by
  cases revised with
  | nil => cases plan <;> cases h
  | cons first rest =>
    cases plan with
    | nil => exact ⟨first, rest, rfl, h, nofun⟩
    | cons old plan =>
      obtain ⟨htrigger, htype⟩ := Bool.and_eq_true_iff.1 h
      refine ⟨first, rest, rfl, htrigger, ?_⟩
      intro b hb hbtrigger
      obtain rfl : old = b := Option.some.inj hb
      simpa [hbtrigger] using htype

theorem mem_mergeParallel_of_apart (hs : s.isTrigger ∨ s.isErrorHandler) (front back : List Step) :
    { s with index := (runs front).length + 1 } ∈ mergeParallel (front ++ s :: back) := by
  have hplace := getElem?_mergeParallel (runs_append_apart hs front back)
  exact List.mem_of_getElem? hplace

/-- A list that passes both checks keeps what it has to when it is merged. -/
theorem keeps_mergeParallel (htrigger : triggerPreserved plan revised = true)
    (hguards : guardsPreserved plan revised = true) : Keeps plan revised (mergeParallel revised) := by
  obtain ⟨first, rest, rfl, hfirst, htype⟩ := exists_of_triggerPreserved htrigger
  have hhead : (mergeParallel (first :: rest)).head? = some { first with index := 1 } := by
    rw [List.head?_eq_getElem?]
    exact getElem?_mergeParallel (runs_append_apart (.inl hfirst) [] rest)
  refine
    { indices := map_index_mergeParallel _
      leading := ?_
      leadingType := ?_
      handlers := ?_
      guarded := ?_ }
  · obtain ⟨tail, htail⟩ := List.head?_eq_some_iff.1 hhead
    rw [htail]
    exact hfirst
  · intro old hold holdTrigger new hnew
    obtain rfl := Option.some.inj (hhead.symm.trans hnew)
    exact htype old hold holdTrigger
  · intro handler hmem hhandler
    obtain ⟨front, back, hsplit⟩ := List.append_of_mem hmem
    exact ⟨_, hsplit ▸ mem_mergeParallel_of_apart (.inr hhandler) front back⟩
  · intro front handler back hsplit hhandler hguard
    -- the list begins with a trigger, so the handler has a step before it
    have hfront : front ≠ [] := by
      rintro rfl
      obtain ⟨rfl, -⟩ := List.cons.inj hsplit
      simp_all [isTrigger, isErrorHandler]
    obtain ⟨earlier, s, hs⟩ := List.eq_nil_or_concat front |>.resolve_left hfront
    rw [List.concat_eq_append] at hs
    have hneighbours : first :: rest = earlier ++ s :: handler :: back := by simp [hsplit, hs]
    have hmem : (s, handler) ∈ guards (first :: rest) := mem_guards.2 ⟨hhandler, earlier, back, hneighbours⟩
    obtain ⟨before, run, after, hruns, hflatten⟩ := exists_runs_of_handler hhandler earlier s back
    rw [← hneighbours] at hruns
    refine ⟨earlier, s, hs, exists_guard_of_guardsPreserved hguards hmem hguard,
      before, run, after, hruns, hflatten, getElem?_mergeParallel hruns, ?_⟩
    have hnext : runs (first :: rest) = (before ++ [run ++ [s]]) ++ [handler] :: after := by simp [hruns]
    have hplace := getElem?_mergeParallel hnext
    rwa [List.length_append, List.length_singleton, folded_singleton] at hplace

end Step

namespace Stage

variable {o : StageOptions} {listener : Option Listener} {store store' : Store} {r r' : Run}
  {steps revised output : List Step} {v : Json}

/-- A revision is accepted if its steps in order pass both checks, and then they are merged. -/
theorem readOptimization_eq_accepted : readOptimization steps v = .accepted output ↔
    ∃ listed, Step.readList v = some listed ∧ Step.repair listed ≠ [] ∧
      Step.triggerPreserved steps (Step.repair listed) = true ∧
      Step.guardsPreserved steps (Step.repair listed) = true ∧
      output = Step.mergeParallel (Step.repair listed) := by
  unfold readOptimization
  cases Step.readList v with
  | none => simp
  | some listed =>
    simp only [Option.some.injEq, exists_eq_left']
    split
    · rename_i hrejected
      constructor
      · nofun
      · rintro ⟨hne, htrigger, hguards, -⟩
        simp [hne, htrigger, hguards] at hrejected
    · rename_i hkept
      simp only [Bool.or_eq_true, List.isEmpty_iff, Bool.not_eq_true', not_or, Bool.not_eq_false] at hkept
      obtain ⟨⟨hne, htrigger⟩, hguards⟩ := hkept
      simp [hne, htrigger, hguards, eq_comm]

/-- The revision was declined: the steps stay as they are, and the name of the stage is recorded. -/
def RevisionDeclined (steps : List Step) (store store' : Store) : Prop :=
  ∃ names, store.fallbacks? = some names ∧
    store' = { store.recorded names optimization.name with optimizedSteps := some steps }

/-- The revision in a completion was accepted: nothing is recorded, and the output keeps what it has
to. -/
def RevisionAccepted [Limits] (steps : List Step) (completion : Text) (store store' : Store) : Prop :=
  ∃ v listed output, Completion.read completion = .ok (.value v) ∧ Step.readList v = some listed ∧
    store' = { store with optimizedSteps := some output } ∧ Step.Keeps steps (Step.repair listed) output

theorem not_declined_of_accepted [Limits] {completion : Text} (h : RevisionAccepted steps completion store store') :
    ¬RevisionDeclined steps store store' := by
  rintro ⟨names, hnames, hdeclined⟩
  obtain ⟨v, listed, output, -, -, rfl, -⟩ := h
  have hrecord : store.fallbackStages = some (.array (names ++ [.text optimization.name])) :=
    congrArg Store.fallbackStages hdeclined
  rw [Store.fallbacks?, hrecord] at hnames
  simp at hnames

/-- The input of a stage is what it takes from the store. -/
theorem input_of_prepare {ι ο : Type} {s : Stage ι ο} {input : ι} {request : CompletionRequest}
    (h : s.prepare store = .ok (input, request)) : s.input store = .ok input := by
  obtain ⟨taken, htaken, hrest⟩ := Json.bind_eq_ok.1 h
  obtain ⟨message, -, hmessage⟩ := Json.bind_eq_ok.1 hrest
  rw [htaken, (Prod.mk.inj (Except.ok.inj hmessage)).1]

/-- **A revision keeps the trigger and the guards, or it is declined.** If the stage ends well, then
either it read a revision from the last reply that it used up, and its output keeps what it has to of
the steps, or its output are the steps as they were, and this is recorded. -/
theorem revision_kept_or_declined [Limits] (hsteps : store.architectureSteps = some steps)
    (h : optimization.run o listener store r = (.ok store', r')) :
    ∃ used completion, r.replies = used ++ .text completion :: r'.replies ∧
      Xor (RevisionDeclined steps store store') (RevisionAccepted steps completion store store') := by
  obtain ⟨input, request, finding, hprepare, hattempts, hfinish⟩ := run_ok_iff.1 h
  obtain ⟨used, completion, hreplies, hread⟩ := attempts_ok hattempts
  rw [Run.replies_tell] at hreplies
  refine ⟨used, completion, hreplies, ?_⟩
  obtain rfl : input = steps := by
    have hinput : optimizationInput store = .ok input := input_of_prepare hprepare
    rw [optimizationInput, hsteps] at hinput
    exact (Except.ok.inj hinput).symm
  rcases finish_ok_iff.1 hfinish with ⟨v, output, rfl, haccepted, rfl⟩ | ⟨-, hfall⟩
  · obtain ⟨listed, hlisted, -, htrigger, hguards, rfl⟩ := readOptimization_eq_accepted.1 haccepted
    have haccept : RevisionAccepted input completion store (optimization.put _ store) :=
      ⟨v, listed, _, hread, hlisted, rfl, Step.keeps_mergeParallel htrigger hguards⟩
    exact .inr ⟨haccept, not_declined_of_accepted haccept⟩
  · obtain ⟨record, hrecord, rfl⟩ := fallBack_ok_iff.1 hfall
    rw [Store.recordFallback_eq] at hrecord
    obtain ⟨names, hnames, rfl⟩ := Option.map_eq_some_iff.1 hrecord
    have hdecline : RevisionDeclined input store (optimization.put (optimization.fallback input)
        { store with fallbackStages := some (.array (names ++ [.text optimization.name])) }) :=
      ⟨names, hnames, rfl⟩
    exact .inl ⟨hdecline, fun haccept => not_declined_of_accepted haccept hdecline⟩

/-- A plan that puts something somewhere every day, and sends a mail if that fails. -/
def dailyPut : List Step := [
  ⟨1, .trigger, "9am", [], "cron", none, false, none⟩,
  ⟨2, .action, "Put", "Box", "http", none, false, none⟩,
  ⟨3, .errorHandler, "No", [], "mail", none, false, none⟩]

/-- A revision of it that gets something beside, and has its steps out of order. -/
def getBeside : Json :=
  .ofFields [("steps", .array [
    .ofFields [("step", .int 4), ("type", "error_handler"), ("description", "NO"), ("nodeType", "mail")],
    .ofFields [("step", .int 2), ("description", "Get"), ("nodeType", "http"), ("parallelizable", .bool true)],
    .ofFields [("step", "3"), ("description", "put"), ("nodeType", "http"), ("parallelizable", "yes")],
    .ofFields [("step", .int 9), ("type", "trigger"), ("nodeType", "cron")]])]

open scoped Limits in
/-- The revision is accepted, and the two steps of one type are merged in front of the handler. -/
theorem revision_kept_or_declined_merged :
    ∃ store r, optimization.run {} none { architectureSteps := some dailyPut }
        { replies := [.text (getBeside.write .plain)] } = (.ok store, r) ∧
      store.optimizedSteps = some [⟨1, .trigger, [], [], "cron", none, false, none⟩,
        ⟨2, .process, "Get; put", [], "http", none, true, none⟩,
        ⟨3, .errorHandler, "NO", [], "mail", none, false, none⟩] ∧
      ∃ used completion, [Reply.text (getBeside.write .plain)] = used ++ .text completion :: r.replies ∧
        Xor (RevisionDeclined dailyPut { architectureSteps := some dailyPut } store)
          (RevisionAccepted dailyPut completion { architectureSteps := some dailyPut } store) := by
  have hread : Completion.read (getBeside.write .plain) = .ok (.value getBeside) :=
    Json.toOption_eq_some.1 (by decide +kernel)
  have haccepted : readOptimization dailyPut getBeside = .accepted
      [⟨1, .trigger, [], [], "cron", none, false, none⟩, ⟨2, .process, "Get; put", [], "http", none, true, none⟩,
        ⟨3, .errorHandler, "NO", [], "mail", none, false, none⟩] := by
    cbv
  have hattempts (request : CompletionRequest) :
      optimization.attempts {} request 0 { replies := [.text (getBeside.write .plain)] } =
        (.ok (.value getBeside), { replies := [], requests := [request] }) := by
    rw [attempts, attempt_zero]
    show ((Completion.read (getBeside.write .plain)).mapError Failure.beyond, _) = _
    rw [hread]
    rfl
  have hfinish : optimization.finish { architectureSteps := some dailyPut } dailyPut (.value getBeside) = .ok _ :=
    finish_ok_iff.2 (.inl ⟨_, _, rfl, haccepted, rfl⟩)
  have hrun : optimization.run {} none { architectureSteps := some dailyPut }
      { replies := [.text (getBeside.write .plain)] } = (.ok _, _) :=
    run_ok_iff.2 ⟨dailyPut, _, _, rfl, hattempts _, hfinish⟩
  exact ⟨_, _, hrun, rfl, revision_kept_or_declined rfl hrun⟩

end Stage

end Automation
