import Automation.Proofs.Progress.Order
import Mathlib.Data.List.Dedup
import Mathlib.Data.List.Induction
import Mathlib.Data.List.Nodup

/-!
# Calls one after another

As long as every call of the hub has ended before the next one begins, nothing can move under a broadcast. It has
a turn for every connection, in their order, whether the messages before arrived or not; only when it comes to its
end does it disconnect those that it lost. A connection is there if and only if its client was connected, and has
not been disconnected or lost since.

A call is told by its moves (`callMoves`), so that all this is about the same broadcasts that go on side by side
elsewhere. Clients are only connected while they are not. `state_broadcast` says what a broadcast comes to; the
rest goes by induction over the calls.

Main statement: `keepsConnections_session`.
-/

namespace Automation

/-- A call of a hub that has ended before the next one begins. -/
inductive HubCall (κ : Type) where
  /-- A client is connected. -/
  | connect (client : κ)
  /-- A client is disconnected. -/
  | disconnect (client : κ)
  /-- A message is sent to all connections, and arrives at those that work. -/
  | broadcast (message : Text) (works : κ → Bool)

namespace HubCall

variable {κ : Type}

/-- The client that is connected in a call. -/
def joins? : HubCall κ → Option κ
  | connect client => some client
  | _ => none

/-- A client stays connected in a call if it is. -/
def Spares (call : HubCall κ) (c : κ) : Prop :=
  match call with
  | connect _ => True
  | disconnect client => client ≠ c
  | broadcast _ works => works c = true

/-- A client was connected in some call, and spared ever since. -/
def Stays (calls : List (HubCall κ)) (c : κ) : Prop :=
  ∃ before after, calls = before ++ connect c :: after ∧ ∀ call ∈ after, call.Spares c

theorem stays_concat {calls : List (HubCall κ)} {call : HubCall κ} {c : κ} :
    Stays (calls ++ [call]) c ↔ call = connect c ∨ Stays calls c ∧ call.Spares c := by
  constructor
  · rintro ⟨before, after, heq, hspares⟩
    rcases List.eq_nil_or_concat' after with rfl | ⟨after, last, rfl⟩
    · exact .inl (List.singleton_inj.1 (List.append_inj_right' heq rfl))
    · rw [← List.cons_append, ← List.append_assoc] at heq
      obtain ⟨rfl, hlast⟩ := List.append_inj' heq rfl
      obtain rfl := List.singleton_inj.1 hlast
      exact .inr ⟨⟨before, after, rfl, fun other hother => hspares other (List.mem_append_left _ hother)⟩,
        hspares call (List.mem_append_right _ (List.mem_singleton_self _))⟩
  · rintro (rfl | ⟨⟨before, after, rfl, hspares⟩, hcall⟩)
    · exact ⟨calls, [], rfl, nofun⟩
    · refine ⟨before, after ++ [call], by simp, fun other hother => ?_⟩
      rcases List.mem_append.1 hother with hother | hother
      · exact hspares other hother
      · rw [List.mem_singleton.1 hother]
        exact hcall

end HubCall

namespace Hub

variable {κ : Type} [DecidableEq κ] {h : Hub κ} {works : κ → Bool}

theorem active_disconnectAll (h : Hub κ) (clients : List κ) :
    (h.disconnectAll clients).active = h.active.diff clients := by
  induction clients generalizing h with
  | nil => rfl
  | cons client rest ih => rw [disconnectAll_cons, ih, disconnect, List.diff_cons]

/-- After a broadcast the connections are those that it reached, in their order. -/
theorem active_broadcast (hnodup : h.active.Nodup) (works : κ → Bool) :
    (h.broadcast works).active = h.active.filter works := by
  rw [broadcast, active_disconnectAll, hnodup.sdiff_eq_filter]
  refine List.filter_congr fun c hc => ?_
  cases hworks : works c <;> simp [lost, hc, hworks]

end Hub

namespace Traffic

variable {κ : Type} [DecidableEq κ] {t : Traffic κ} {c : κ} {calls later : List (HubCall κ)} {call : HubCall κ}

/-! ### One call -/

/-- The moves of a call. A broadcast has a turn for every connection, and one in which it comes to its end. -/
def callMoves (t : Traffic κ) : HubCall κ → List (Move κ)
  | .connect client => [.connect client]
  | .disconnect client => [.disconnect client]
  | .broadcast message works =>
    .begin message :: ((t.hub.active.map fun client => .proceed t.broadcasts.length (works client)) ++
      [.proceed t.broadcasts.length true])

/-- The state after a call. -/
def carryOut (t : Traffic κ) (call : HubCall κ) : Traffic κ :=
  t.run (t.callMoves call)

/-- A broadcast is sent to all connections, is at its end then, and leaves the hub as its broadcast does. -/
theorem carryOut_broadcast (t : Traffic κ) (message : Text) (works : κ → Bool) :
    t.carryOut (.broadcast message works) =
      { hub := t.hub.broadcast works
        broadcasts := t.broadcasts ++
          [{ message, next := t.hub.active.length, lost := t.hub.lost works, ended := true }]
        sent := t.sent ++ t.hub.active.map fun client => ⟨t.broadcasts.length, client, works client⟩ } := by
  have hway : (t.move (.begin message)).UnderWay t.broadcasts.length { message } := ⟨by simp [move], rfl⟩
  have hactive : (t.move (.begin message)).hub.active = [] ++ t.hub.active ++ [] := by simp [move]
  have hturns := run_proceeds works hway hactive rfl
  have hrun : t.carryOut (.broadcast message works) =
      ((t.move (.begin message)).run (t.hub.active.map fun client =>
        .proceed t.broadcasts.length (works client))).move (.proceed t.broadcasts.length true) :=
    run_append _ _ [.proceed t.broadcasts.length true]
  rw [hrun, hturns]
  simp [move, proceed, Hub.broadcast, Hub.lost, List.set_append_right]

/-- A client that is not connected is sent nothing in a call, and is not connected by any call but its own. -/
theorem carryOut_of_not_mem (hc : c ∉ t.hub.active) (hcall : call ≠ .connect c) :
    c ∉ (t.carryOut call).hub.active ∧ (t.carryOut call).dispatched c = t.dispatched c := by
  cases call with
  | connect client =>
    have hne : c ≠ client := fun heq => hcall (heq ▸ rfl)
    exact ⟨by simpa [carryOut, callMoves, run, move, Hub.connect, hne] using hc, rfl⟩
  | disconnect client => exact ⟨fun hmem => hc (List.mem_of_mem_erase hmem), rfl⟩
  | broadcast message works =>
    rw [carryOut_broadcast]
    constructor
    · show c ∉ (t.hub.broadcast works).active
      rw [Hub.broadcast, Hub.active_disconnectAll]
      exact fun hmem => hc (List.diff_subset _ _ hmem)
    · have hnone : (t.hub.active.map fun client =>
          (⟨t.broadcasts.length, client, works client⟩ : Dispatch κ)).filter (fun d => d.client = c) = [] := by
        rw [List.filter_eq_nil_iff]
        rintro d hd
        obtain ⟨client, hclient, rfl⟩ := List.mem_map.1 hd
        simpa using fun heq : client = c => hc (heq ▸ hclient)
      rw [dispatched, List.filter_append, hnone, List.append_nil, dispatched]

/-! ### Sessions -/

/-- The state after some calls, each of which has ended before the next one begins. -/
def session (t : Traffic κ) (calls : List (HubCall κ)) : Traffic κ :=
  calls.foldl carryOut t

theorem session_concat (t : Traffic κ) (calls : List (HubCall κ)) (call : HubCall κ) :
    t.session (calls ++ [call]) = (t.session calls).carryOut call :=
  List.foldl_concat ..

/-- Clients are only connected while they are not. -/
def ConnectsOnce : Traffic κ → List (HubCall κ) → Prop
  | _, [] => True
  | t, call :: rest => (∀ c ∈ call.joins?, c ∉ t.hub.active) ∧ ConnectsOnce (t.carryOut call) rest

instance decidableConnectsOnce : (t : Traffic κ) → (calls : List (HubCall κ)) → Decidable (ConnectsOnce t calls)
  | _, [] => instDecidableTrue
  | t, call :: rest =>
    have := decidableConnectsOnce (t.carryOut call) rest
    inferInstanceAs (Decidable ((∀ c ∈ call.joins?, c ∉ t.hub.active) ∧ ConnectsOnce (t.carryOut call) rest))

theorem connectsOnce_concat : ConnectsOnce t (calls ++ [call]) ↔
    ConnectsOnce t calls ∧ ∀ c ∈ call.joins?, c ∉ (t.session calls).hub.active := by
  induction calls generalizing t with
  | nil => simp [ConnectsOnce, session]
  | cons first rest ih =>
    rw [List.cons_append, ConnectsOnce, ConnectsOnce, ih, and_assoc]
    rfl

theorem session_of_not_mem (hc : c ∉ t.hub.active) (hlater : .connect c ∉ later) :
    (t.session later).dispatched c = t.dispatched c := by
  induction later generalizing t with
  | nil => rfl
  | cons call rest ih =>
    rw [List.mem_cons, not_or] at hlater
    obtain ⟨hnot, hsame⟩ := carryOut_of_not_mem hc (Ne.symm hlater.1)
    exact (ih hnot hlater.2).trans hsame

/-- A client that is connected stands behind all that were connected before. -/
theorem dedup_concat (l : List κ) (c : κ) : (l ++ [c]).dedup = (l.dedup.filter fun d => d ≠ c) ++ [c] := by
  induction l with
  | nil => simp
  | cons a l ih =>
    by_cases hac : a = c
    · subst hac
      rw [List.cons_append, List.dedup_cons_of_mem (by simp), ih]
      by_cases ha : a ∈ l <;> simp [ha]
    · by_cases ha : a ∈ l <;> simp [ha, hac, ih]

/-- The connections of a session, as its calls tell them. -/
structure Kept (calls : List (HubCall κ)) (active : List κ) : Prop where
  /-- They are in the order in which the clients were connected, the last time if there was more than one, and no
  client is there twice. -/
  inOrder : active.Sublist (calls.filterMap HubCall.joins?).dedup
  /-- A client is there if it was connected and spared ever since. -/
  mem_iff : ∀ c, c ∈ active ↔ HubCall.Stays calls c

theorem Kept.nodup {active : List κ} (h : Kept calls active) : active.Nodup :=
  (List.nodup_dedup _).sublist h.inOrder

theorem Kept.carryOut (h : Kept calls t.hub.active) (hnew : ∀ c ∈ call.joins?, c ∉ t.hub.active) :
    Kept (calls ++ [call]) (t.carryOut call).hub.active := by
  cases call with
  | connect client =>
    have hactive : (t.carryOut (.connect client)).hub.active = t.hub.active ++ [client] := rfl
    have hothers : t.hub.active.filter (fun d => d ≠ client) = t.hub.active := by
      refine List.filter_eq_self.2 fun d hd => decide_eq_true fun heq => ?_
      exact hnew client rfl (heq ▸ hd)
    have hjoins : (calls ++ [HubCall.connect client]).filterMap HubCall.joins? =
        calls.filterMap HubCall.joins? ++ [client] := by
      rw [List.filterMap_append]
      rfl
    rw [hactive]
    refine ⟨?_, fun c => ?_⟩
    · rw [hjoins, dedup_concat, ← hothers]
      exact (h.inOrder.filter _).append (List.Sublist.refl _)
    · rw [HubCall.stays_concat, ← h.mem_iff, List.mem_append, List.mem_singleton, HubCall.connect.injEq, or_comm]
      exact or_congr eq_comm (and_iff_left trivial).symm
  | disconnect client =>
    have hactive : (t.carryOut (.disconnect client)).hub.active = t.hub.active.erase client := rfl
    rw [hactive]
    refine ⟨?_, fun c => ?_⟩
    · rw [List.filterMap_append, List.filterMap_cons_none rfl, List.filterMap_nil, List.append_nil]
      exact List.erase_sublist.trans h.inOrder
    · rw [HubCall.stays_concat, ← h.mem_iff, h.nodup.mem_erase_iff]
      simp only [reduceCtorEq, false_or]
      exact and_comm.trans (and_congr_right fun _ => ne_comm)
  | broadcast message works =>
    rw [carryOut_broadcast, Hub.active_broadcast h.nodup]
    refine ⟨?_, fun c => ?_⟩
    · rw [List.filterMap_append, List.filterMap_cons_none rfl, List.filterMap_nil, List.append_nil]
      exact List.filter_sublist.trans h.inOrder
    · rw [HubCall.stays_concat, ← h.mem_iff, List.mem_filter]
      simp only [reduceCtorEq, false_or]
      rfl

theorem kept_session (h : ConnectsOnce ({} : Traffic κ) calls) :
    Kept calls (({} : Traffic κ).session calls).hub.active := by
  induction calls using List.reverseRecOn with
  | nil => exact ⟨List.nil_sublist _, fun c => ⟨nofun, by rintro ⟨before, after, heq, -⟩; simp at heq⟩⟩
  | append_singleton calls call ih =>
    obtain ⟨hcalls, hnew⟩ := connectsOnce_concat.1 h
    rw [session_concat]
    exact (ih hcalls).carryOut hnew

/-- How the connections are kept when some calls have led to a state. -/
structure KeepsConnections (calls : List (HubCall κ)) (t : Traffic κ) : Prop where
  /-- The connections are those that the calls tell. -/
  kept : Kept calls t.hub.active
  /-- A broadcast is sent to every connection, in their order, whether others were reached or not, and to nobody
  else. -/
  sends : ∀ message works, (t.carryOut (.broadcast message works)).sent =
    t.sent ++ t.hub.active.map fun client => ⟨t.broadcasts.length, client, works client⟩
  /-- What is sent is its message, and then it is at its end. -/
  ends : ∀ message works, ∃ b, (t.carryOut (.broadcast message works)).broadcasts = t.broadcasts ++ [b] ∧
    b.message = message ∧ b.ended = true
  /-- Afterwards the connections are those that it reached, in their order. -/
  reaches : ∀ message works, (t.carryOut (.broadcast message works)).hub = t.hub.broadcast works ∧
    (t.hub.broadcast works).active = t.hub.active.filter works
  /-- A client that is not connected is sent nothing until it is connected. -/
  silent : ∀ c ∉ t.hub.active, ∀ later, .connect c ∉ later → (t.session later).dispatched c = t.dispatched c
  /-- To disconnect a client that is not connected changes nothing. -/
  idle : ∀ c ∉ t.hub.active, t.carryOut (.disconnect c) = t

/-- **Connections are kept over sessions.** After any calls, each of which has ended before the next one begins and
which connect clients only while they are not connected, the connections are those of the clients that were connected
and not disconnected or lost since, in the order in which they were connected. A broadcast is sent to each of them
once, in that order, and leaves those that it reached. Who is not connected is sent nothing. -/
theorem keepsConnections_session (h : ConnectsOnce ({} : Traffic κ) calls) :
    KeepsConnections calls (({} : Traffic κ).session calls) := by
  have hkept := kept_session h
  generalize ({} : Traffic κ).session calls = t at hkept
  refine ⟨hkept, fun message works => ?_, fun message works => ?_, fun message works => ?_, ?_, fun c hc => ?_⟩
  · rw [carryOut_broadcast]
  · rw [carryOut_broadcast]
    exact ⟨_, rfl, rfl, rfl⟩
  · rw [carryOut_broadcast]
    exact ⟨rfl, Hub.active_broadcast hkept.nodup works⟩
  · exact fun c hc later hlater => session_of_not_mem hc hlater
  · show { t with hub := t.hub.disconnect c } = t
    rw [Hub.disconnect, List.erase_of_not_mem hc]

/-- A client that is lost in a broadcast misses the next one, and is connected again. -/
def lostAndFound : List (HubCall Nat) :=
  [.connect 0, .connect 1, .connect 2, .broadcast "water" fun c => c ≠ 0, .disconnect 0,
    .broadcast "tea" fun _ => true, .connect 0]

theorem keepsConnections_session_lostAndFound :
    ConnectsOnce {} lostAndFound ∧ (({} : Traffic Nat).session lostAndFound).hub.active = [1, 2, 0] ∧
      KeepsConnections lostAndFound (({} : Traffic Nat).session lostAndFound) := by
  have honce : ConnectsOnce {} lostAndFound := by decide
  exact ⟨honce, by decide, keepsConnections_session honce⟩

end Traffic

end Automation
