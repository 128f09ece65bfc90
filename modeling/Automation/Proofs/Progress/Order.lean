import Automation.Proofs.Progress.Interleaving
import Automation.Server.Api
import Mathlib.Data.List.TFAE
import Mathlib.Tactic.TFAE

/-!
# The order in which clients are sent broadcasts

Broadcasts go on for the first time in the order in which they began, and after that in any order. The first
of all connections is sent each broadcast when it goes on for the first time, and so it is sent the broadcasts
in their order. To any other client a broadcast comes later, and another one that began after it can overtake
it on the way, even if all messages arrive and nobody comes or goes.

Main statement: `received_in_order`.
-/

namespace Automation.Traffic

variable {κ : Type} [DecidableEq κ] {t : Traffic κ} {i j : Nat} {b : Broadcast κ} {c : κ} {m : Move κ}
  {moves : List (Move κ)} {P : Traffic κ → Move κ → Prop}

/-- A broadcast has gone on at least once. -/
def Started (t : Traffic κ) (i : Nat) : Prop :=
  ∃ b, t.broadcasts[i]? = some b ∧ (b.next ≠ 0 ∨ b.ended = true)

/-- A broadcast goes on only when all that began before it have. -/
def StartsInTurn (t : Traffic κ) : Move κ → Prop
  | .proceed i _ => ∀ b, t.UnderWay i b → ∀ j < i, t.Started j
  | _ => True

/-- Whether a move is one of broadcasts alone, and without loss. -/
def quiet : Move κ → Bool
  | .begin _ => true
  | .proceed _ arrives => arrives
  | _ => false

/-- The numbers of the broadcasts that were sent to a client, in order. -/
def dispatched (t : Traffic κ) (c : κ) : List Nat :=
  (t.sent.filter fun d => d.client = c).map Dispatch.broadcast

/-! ### One move -/

theorem received_sublist (t : Traffic κ) (c : κ) : (t.received c).Sublist (t.dispatched c) := by
  have hfilter : t.sent.filter (fun d => d.client = c ∧ d.arrives) =
      (t.sent.filter fun d => d.client = c).filter Dispatch.arrives := by
    rw [List.filter_filter]
    exact List.filter_congr fun d _ => by simp [Bool.and_comm]
  unfold received dispatched
  rw [hfilter]
  exact List.filter_sublist.map _

omit [DecidableEq κ] in
theorem UnderWay.not_started (h : t.UnderWay i b) (hnext : b.next = 0) : ¬t.Started i := by
  rintro ⟨b', hfound, hstarted⟩
  obtain rfl := Option.some.inj (h.found.symm.trans hfound)
  simp [hnext, h.going] at hstarted

omit [DecidableEq κ] in
theorem UnderWay.started_set_iff (h : t.UnderWay i b) {b' : Broadcast κ} (hb' : b'.next ≠ 0 ∨ b'.ended = true)
    (hub : Hub κ) (sent : List (Dispatch κ)) :
    Started { hub, broadcasts := t.broadcasts.set i b', sent } j ↔ t.Started j ∨ i = j := by
  unfold Started
  by_cases heq : i = j
  · subst heq
    have hlt := (List.getElem?_eq_some_iff.1 h.found).1
    exact iff_of_true ⟨b', List.getElem?_set_self hlt, hb'⟩ (.inr rfl)
  · simp [List.getElem?_set_ne heq, heq]

/-- In a move only the broadcast that goes on starts, if any. -/
theorem Effect.started_iff {t' : Traffic κ} (h : t.Effect m t') :
    t'.Started j ↔ t.Started j ∨ ∃ b arrives, t.UnderWay j b ∧ m = .proceed j arrives := by
  cases h with
  | joins client | leaves client => simp [Started]
  | begins message =>
    simp only [reduceCtorEq, and_false, exists_false, or_false, Started, List.getElem?_append]
    split
    · rfl
    · next hle =>
      rw [List.getElem?_eq_none (Nat.not_lt.1 hle)]
      cases j - t.broadcasts.length <;> simp
  | @sends i b client arrives hway hclient =>
    rw [hway.started_set_iff (.inl (Nat.succ_ne_zero _))]
    refine or_congr_right ⟨?_, ?_⟩
    · rintro rfl
      exact ⟨b, arrives, hway, rfl⟩
    · rintro ⟨_, _, -, heq⟩
      exact (Move.proceed.inj heq).1
  | @ends i b arrives hway =>
    rw [hway.started_set_iff (.inr rfl)]
    refine or_congr_right ⟨?_, ?_⟩
    · rintro rfl
      exact ⟨b, arrives, hway, rfl⟩
    · rintro ⟨_, _, -, heq⟩
      exact (Move.proceed.inj heq).1
  | idles arrives hidle =>
    refine (or_iff_left ?_).symm
    rintro ⟨b, _, hway, heq⟩
    obtain ⟨rfl, -⟩ := Move.proceed.inj heq
    exact hidle b hway

/-- Broadcasts that have started stay so. -/
theorem Started.move (h : t.Started i) (m : Move κ) : (t.move m).Started i :=
  (effect_move t m).started_iff.2 (.inl h)

/-- In a move a client is sent nothing, or the broadcast whose next connection it is. -/
theorem dispatched_move (t : Traffic κ) (m : Move κ) (c : κ) : (t.move m).dispatched c = t.dispatched c ∨
    ∃ i b arrives, m = .proceed i arrives ∧ t.UnderWay i b ∧ t.hub.active[b.next]? = some c ∧
      (t.move m).dispatched c = t.dispatched c ++ [i] := by
  have heffect := effect_move t m
  generalize t.move m = t' at heffect ⊢
  cases heffect with
  | @sends i b client arrives hway hclient =>
    by_cases heq : client = c
    · subst heq
      exact .inr ⟨i, b, arrives, rfl, hway, hclient, by simp [dispatched]⟩
    · exact .inl (by simp [dispatched, heq])
  | joins | leaves | begins | ends | idles => exact .inl rfl

/-! ### The first client -/

/-- The first client is sent broadcasts in their order. -/
structure FirstInOrder (t : Traffic κ) (c : κ) : Prop where
  /-- It is the first as long as it is connected once. -/
  first : t.Once c → t.hub.active.idxOf c = 0
  /-- All broadcasts in front of one that has started have started. -/
  started : ∀ j, t.Started j → ∀ i < j, t.Started i
  /-- What it was sent belongs to broadcasts that have started. -/
  sent : ∀ i ∈ t.dispatched c, t.Started i
  /-- It was sent them in their order. -/
  ordered : (t.dispatched c).Pairwise (· < ·)

/-- The first client stays the first when others come and go. -/
theorem idxOf_disconnectAll_eq_zero {clients : List κ} (hone : t.Once c) (hfirst : t.hub.active.idxOf c = 0)
    (hone' : (t.hub.disconnectAll clients).active.count c = 1) :
    (t.hub.disconnectAll clients).active.idxOf c = 0 := by
  have hc : c ∉ clients := by
    intro hmem
    have hpos := List.count_pos_iff.2 hmem
    rw [Hub.count_disconnectAll, hone] at hone'
    omega
  have hle := t.hub.idxOf_disconnectAll_le hc
  omega

theorem first_move (h : t.FirstInOrder c) (hone : t.Once c) (m : Move κ) :
    (t.move m).Once c → (t.move m).hub.active.idxOf c = 0 := by
  have hfirst := h.first hone
  have heffect := effect_move t m
  generalize t.move m = t' at heffect ⊢
  cases heffect with
  | joins client =>
    have hmem : c ∈ t.hub.active := List.count_pos_iff.1 (by rw [hone]; exact Nat.one_pos)
    exact fun _ => (List.idxOf_append_of_mem hmem).trans hfirst
  | leaves client => exact idxOf_disconnectAll_eq_zero hone hfirst
  | ends => exact idxOf_disconnectAll_eq_zero hone hfirst
  | begins | sends | idles => exact fun _ => hfirst

/-- All broadcasts in front of one that starts have started. -/
theorem started_move (h : t.FirstInOrder c) (hturn : t.StartsInTurn m) (hj : (t.move m).Started j) (hlt : i < j) :
    (t.move m).Started i := by
  refine Started.move ?_ m
  rcases (effect_move t m).started_iff.1 hj with hj | ⟨b, arrives, hway, rfl⟩
  · exact h.started j hj i hlt
  · exact hturn b hway i hlt

/-- The first client is sent a broadcast when it goes on for the first time, and no broadcast behind it
has. -/
theorem lt_of_dispatched (h : t.FirstInOrder c) (hone : t.Once c) (hway : t.UnderWay i b)
    (hclient : t.hub.active[b.next]? = some c) (hj : j ∈ t.dispatched c) : j < i := by
  rw [Hub.getElem?_eq_some_iff_idxOf hone, h.first hone] at hclient
  have hnot := hway.not_started hclient.symm
  have hstarted := h.sent j hj
  rcases Nat.lt_trichotomy j i with hlt | rfl | hlt
  · exact hlt
  · exact absurd hstarted hnot
  · exact absurd (h.started j hstarted i hlt) hnot

theorem firstInOrder_move (h : t.FirstInOrder c) (hone : t.Once c) (hturn : t.StartsInTurn m) :
    (t.move m).FirstInOrder c := by
  refine ⟨first_move h hone m, fun j hj i hlt => started_move h hturn hj hlt, ?_, ?_⟩
  · intro i hi
    rcases dispatched_move t m c with hsame | ⟨j, b, arrives, rfl, hway, -, hmore⟩
    · exact (h.sent i (hsame ▸ hi)).move m
    · rw [hmore, List.mem_append, List.mem_singleton] at hi
      rcases hi with hi | rfl
      · exact (h.sent i hi).move _
      · exact (effect_move t _).started_iff.2 (.inr ⟨b, arrives, hway, rfl⟩)
  · rcases dispatched_move t m c with hsame | ⟨i, b, arrives, rfl, hway, hclient, hmore⟩
    · rw [hsame]
      exact h.ordered
    · rw [hmore, List.pairwise_append]
      refine ⟨h.ordered, List.pairwise_singleton _ _, fun j hj i' hi' => ?_⟩
      obtain rfl := List.mem_singleton.1 hi'
      exact lt_of_dispatched h hone hway hclient hj

theorem firstInOrder_run (h : t.FirstInOrder c) (hone : Along (fun s _ => s.Once c) t moves)
    (hturn : Along StartsInTurn t moves) : (t.run moves).FirstInOrder c := by
  induction moves generalizing t with
  | nil => exact h
  | cons m rest ih => exact ih (firstInOrder_move h hone.1 hturn.1) hone.2 hturn.2

/-! ### Overtaking -/

theorem run_append (t : Traffic κ) (moves others : List (Move κ)) : t.run (moves ++ others) = (t.run moves).run others :=
  List.foldl_append

theorem along_append {others : List (Move κ)} (h : Along P t moves)
    (h' : Along P (t.run moves) others) : Along P t (moves ++ others) := by
  induction moves generalizing t with
  | nil => exact h'
  | cons m rest ih => exact ⟨h.1, ih h.2 h'⟩

/-- A move without loss, when nothing was lost before, leaves the connections as they are. -/
theorem hub_move_of_quiet (hlost : ∀ b ∈ t.broadcasts, b.lost = []) (hm : quiet m) :
    (t.move m).hub = t.hub ∧ ∀ b ∈ (t.move m).broadcasts, b.lost = [] := by
  have heffect := effect_move t m
  generalize t.move m = t' at heffect ⊢
  cases heffect with
  | joins | leaves => cases hm
  | begins message =>
    refine ⟨rfl, fun b hb => ?_⟩
    rcases List.mem_append.1 hb with hb | hb
    · exact hlost b hb
    · rw [List.mem_singleton.1 hb]
  | @sends i b client arrives hway hclient =>
    obtain rfl : arrives = true := hm
    refine ⟨rfl, fun b' hb' => ?_⟩
    rcases List.mem_or_eq_of_mem_set hb' with hb' | rfl
    · exact hlost b' hb'
    · exact hlost b (List.mem_of_getElem? hway.found)
  | @ends i b arrives hway =>
    have hb := hlost b (List.mem_of_getElem? hway.found)
    refine ⟨by rw [hb]; rfl, fun b' hb' => ?_⟩
    rcases List.mem_or_eq_of_mem_set hb' with hb' | rfl
    · exact hlost b' hb'
    · exact hb
  | idles => exact ⟨rfl, hlost⟩

theorem along_once_of_quiet (hone : t.Once c) (hlost : ∀ b ∈ t.broadcasts, b.lost = [])
    (hquiet : ∀ m ∈ moves, quiet m) : Along (fun s _ => s.Once c) t moves := by
  induction moves generalizing t with
  | nil => trivial
  | cons m rest ih =>
    rw [List.forall_mem_cons] at hquiet
    obtain ⟨hhub, hlost'⟩ := hub_move_of_quiet hlost hquiet.1
    refine ⟨hone, ih ?_ hlost' hquiet.2⟩
    rw [Once, hhub]
    exact hone

/-- A broadcast goes on in turn as often as it will when all that began before it have started. -/
theorem along_startsInTurn_replicate (h : ∀ j < i, t.Started j) (n : Nat) (arrives : Bool) :
    Along StartsInTurn t (List.replicate n (.proceed i arrives)) := by
  induction n generalizing t with
  | zero => trivial
  | succ n ih => exact ⟨fun _ _ => h, ih fun j hj => (h j hj).move _⟩

/-- A broadcast begins and is sent to the first client. Another one begins and overtakes it on the way to a client
with so many others between. More broadcasts may begin. -/
def overtaking (sooner later : Text) (more : List Text) (n : Nat) : List (Move κ) :=
  [.begin sooner, .proceed 0 true, .begin later] ++ (List.replicate (n + 2) (.proceed 1 true) ++
    (List.replicate (n + 1) (.proceed 0 true) ++ more.map .begin))

section

variable {h : Hub κ} {first : κ} {before after : List κ} {sooner later : Text} {more : List Text} {n : Nat}

/-- What is broadcast in some moves. -/
def announced (moves : List (Move κ)) : List Text :=
  moves.filterMap fun
    | .begin message => some message
    | _ => none

omit [DecidableEq κ] in
theorem announced_overtaking : announced (overtaking sooner later more n : List (Move κ)) = sooner :: later :: more := by
  simp [announced, overtaking, List.filterMap_append, List.filterMap_replicate_of_none]

omit [DecidableEq κ] in
theorem quiet_of_mem_overtaking (hm : m ∈ overtaking sooner later more n) : quiet m := by
  simp only [overtaking, List.mem_append, List.mem_cons, List.mem_replicate, List.mem_map, List.not_mem_nil,
    or_false] at hm
  rcases hm with (rfl | rfl | rfl) | ⟨-, rfl⟩ | ⟨-, rfl⟩ | ⟨_, -, rfl⟩ <;> rfl

/-- Two broadcasts, the first of which has been sent to the first client. -/
def oneAhead (h : Hub κ) (first : κ) (sooner later : Text) : Traffic κ where
  hub := h
  broadcasts := [{ message := sooner, next := 1 }, { message := later }]
  sent := [⟨0, first, true⟩]

theorem run_oneAhead (hactive : h.active = first :: (before ++ c :: after)) (sooner later : Text) :
    ({ hub := h } : Traffic κ).run [.begin sooner, .proceed 0 true, .begin later] =
      oneAhead h first sooner later := by
  obtain ⟨active⟩ := h
  subst hactive
  rfl

theorem sent_run_begins (t : Traffic κ) (messages : List Text) : (t.run (messages.map .begin)).sent = t.sent := by
  induction messages generalizing t with
  | nil => rfl
  | cons message rest ih => exact ih (t.move (.begin message))

theorem along_startsInTurn_begins (t : Traffic κ) (messages : List Text) :
    Along StartsInTurn t (messages.map .begin) := by
  induction messages generalizing t with
  | nil => trivial
  | cons message rest ih => exact ⟨trivial, ih _⟩

theorem along_startsInTurn_overtaking (hactive : h.active = first :: (before ++ c :: after)) :
    Along StartsInTurn ({ hub := h } : Traffic κ) (overtaking sooner later more n) := by
  refine along_append ⟨trivial, fun _ _ j hj => absurd hj (Nat.not_lt_zero j), trivial, trivial⟩ ?_
  rw [run_oneAhead hactive]
  have hstarted : ∀ j < 1, (oneAhead h first sooner later).Started j := by
    intro j hj
    obtain rfl := Nat.lt_one_iff.1 hj
    exact ⟨_, rfl, .inl Nat.one_ne_zero⟩
  exact along_append (along_startsInTurn_replicate hstarted _ _)
    (along_append (along_startsInTurn_replicate (fun j hj => absurd hj (Nat.not_lt_zero j)) _ _)
      (along_startsInTurn_begins _ more))

theorem sent_overtaking (hactive : h.active = first :: (before ++ c :: after)) :
    (({ hub := h } : Traffic κ).run (overtaking sooner later more before.length)).sent =
      ⟨0, first, true⟩ :: ((first :: before ++ [c]).map fun client => ⟨1, client, true⟩) ++
        (before ++ [c]).map fun client => ⟨0, client, true⟩ := by
  have hsecond : ((first :: before ++ [c]).map fun _ => (.proceed 1 true : Move κ)) =
      List.replicate (before.length + 2) (.proceed 1 true) := by
    rw [List.map_const', List.length_append, List.length_cons, List.length_singleton]
  have hfirst : ((before ++ [c]).map fun _ => (.proceed 0 true : Move κ)) =
      List.replicate (before.length + 1) (.proceed 0 true) := by
    rw [List.map_const', List.length_append, List.length_singleton]
  have hway : (oneAhead h first sooner later).UnderWay 1 { message := later } := ⟨rfl, rfl⟩
  have hall : (oneAhead h first sooner later).hub.active = [] ++ (first :: before ++ [c]) ++ after := by
    simp [oneAhead, hactive]
  have hrun := run_proceeds (fun _ => true) hway hall rfl
  rw [hsecond] at hrun
  have hway' : ((oneAhead h first sooner later).run (List.replicate (before.length + 2) (.proceed 1 true))).UnderWay 0
      { message := sooner, next := 1 } := by
    rw [hrun]
    exact ⟨rfl, rfl⟩
  have hall' : ((oneAhead h first sooner later).run
      (List.replicate (before.length + 2) (.proceed 1 true))).hub.active = [first] ++ (before ++ [c]) ++ after := by
    rw [hrun]
    simp [oneAhead, hactive]
  have hrun' := run_proceeds (fun _ => true) hway' hall' rfl
  rw [hfirst] at hrun'
  rw [overtaking, run_append, run_oneAhead hactive, run_append, run_append, sent_run_begins, hrun', hrun]
  rfl

theorem received_overtaking (hactive : h.active = first :: (before ++ c :: after)) (hc : c ∉ first :: before) :
    (({ hub := h } : Traffic κ).run (overtaking sooner later more before.length)).received c = [1, 0] := by
  rw [List.mem_cons, not_or] at hc
  have hbefore : ∀ client ∈ before, client ≠ c := fun client hclient heq => hc.2 (heq ▸ hclient)
  have hnone (i : Nat) :
      (before.map fun client => (⟨i, client, true⟩ : Dispatch κ)).filter (fun d => d.client = c && d.arrives) = [] := by
    simpa [List.filter_eq_nil_iff] using hbefore
  rw [received, sent_overtaking hactive]
  simp [List.filter_append, hnone, Ne.symm hc.1]

/-- Whatever is broadcast, any client but the first can be sent the second message before the first one. -/
theorem exists_overtaking (hc : h.active.count c = 1) (hfirst : h.active.head? ≠ some c) (sooner later : Text)
    (more : List Text) :
    ∃ moves, Along StartsInTurn { hub := h } moves ∧ (∀ m ∈ moves, quiet m) ∧
      announced moves = sooner :: later :: more ∧ (({ hub := h } : Traffic κ).run moves).received c = [1, 0] := by
  obtain ⟨before, after, hactive, hbefore⟩ := List.eq_append_cons_of_mem (List.count_pos_iff.1 (hc ▸ Nat.one_pos))
  cases before with
  | nil => exact absurd (by rw [hactive]; rfl) hfirst
  | cons first before =>
    exact ⟨overtaking sooner later more before.length, along_startsInTurn_overtaking hactive,
      fun _ => quiet_of_mem_overtaking, announced_overtaking, received_overtaking hactive hbefore⟩

end

/-- **The first client is sent the broadcasts in their order**, and no other client is: whatever two or more
messages are broadcast, one can overtake another, even if nothing is lost and nobody comes or goes. -/
theorem received_in_order (h : Hub κ) (c : κ) (messages : List Text) (hc : h.active.count c = 1)
    (hmessages : 2 ≤ messages.length) :
    [h.active.head? = some c,
      ∀ moves, Along StartsInTurn { hub := h } moves → Along (fun s _ => s.Once c) { hub := h } moves →
        ((({ hub := h } : Traffic κ).run moves).received c).Pairwise (· < ·),
      ∀ moves, Along StartsInTurn { hub := h } moves → (∀ m ∈ moves, quiet m) → announced moves = messages →
        ((({ hub := h } : Traffic κ).run moves).received c).Pairwise (· < ·)].TFAE := by
  tfae_have 1 → 2
  | hfirst, moves, hturn, hone => by
    have hzero : h.active.idxOf c = 0 := by
      rw [← Hub.getElem?_eq_some_iff_idxOf hc, ← List.head?_eq_getElem?, hfirst]
    have hstart : ({ hub := h } : Traffic κ).FirstInOrder c :=
      ⟨fun _ => hzero, fun j hj => by simp [Started] at hj, fun i hi => by simp [dispatched] at hi, List.Pairwise.nil⟩
    exact (firstInOrder_run hstart hone hturn).ordered.sublist (received_sublist _ c)
  tfae_have 2 → 3
  | hall, moves, hturn, hquiet, _ =>
    hall moves hturn (along_once_of_quiet hc (fun _ hb => absurd hb List.not_mem_nil) hquiet)
  tfae_have 3 → 1 := by
    intro hall
    obtain ⟨sooner, later, more, rfl⟩ : ∃ sooner later more, messages = sooner :: later :: more := by
      match messages, hmessages with
      | sooner :: later :: more, _ => exact ⟨sooner, later, more, rfl⟩
    by_contra hfirst
    obtain ⟨moves, hturn, hquiet, hannounced, hreceived⟩ := exists_overtaking hc hfirst sooner later more
    have hordered := hall moves hturn hquiet hannounced
    simp [hreceived] at hordered
  tfae_finish

theorem received_in_order_pair :
    [0, 1].count 0 = 1 ∧ 2 ≤ [("water" : Text), "milk"].length ∧
      ∀ moves, Along StartsInTurn { hub := ⟨[0, 1]⟩ } moves → Along (fun s _ => s.Once 0) { hub := ⟨[0, 1]⟩ } moves →
        ((({ hub := ⟨[0, 1]⟩ } : Traffic Nat).run moves).received 0).Pairwise (· < ·) :=
  ⟨rfl, Nat.le_refl 2, ((received_in_order ⟨[0, 1]⟩ 0 ["water", "milk"] rfl (Nat.le_refl 2)).out 0 1).1 rfl⟩

open scoped Limits in
/-- The second of two clients can be told that a generation failed before it is told that it began. -/
theorem overtaken_by_failure :
    ∃ began failed, failed = (Api.failureEvent "down").announcement ∧
      (Api.generate ⟨"t"⟩ { replies := [.failure "down"] }).2.events.map ProgressEvent.announcement = [began, failed] ∧
      ¬∀ moves, announced moves = [began, failed] → Along StartsInTurn { hub := ⟨[0, 1]⟩ } moves →
        Along (fun s _ => s.Once 1) { hub := ⟨[0, 1]⟩ } moves →
        ((({ hub := ⟨[0, 1]⟩ } : Traffic Nat).run moves).received 1).Pairwise (· < ·) := by
  have hevents : (Api.generate ⟨"t"⟩ { replies := [.failure "down"] }).2.events =
      [⟨"decomposition", "Breaking down your task into micro-steps...", 10⟩, Api.failureEvent "down"] := by
    decide +kernel
  refine ⟨_, _, rfl, by rw [hevents]; rfl, fun hall => ?_⟩
  have hc : (⟨[0, 1]⟩ : Hub Nat).active.count 1 = 1 := rfl
  obtain ⟨moves, hturn, hquiet, hannounced, hreceived⟩ := exists_overtaking hc (by decide) _ _ []
  have hone := along_once_of_quiet (t := { hub := ⟨[0, 1]⟩ }) hc (fun _ hb => absurd hb List.not_mem_nil) hquiet
  have hordered := hall moves hannounced hturn hone
  simp [hreceived] at hordered

end Automation.Traffic
