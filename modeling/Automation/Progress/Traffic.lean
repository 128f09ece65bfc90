import Automation.Progress.Hub

/-!
# Broadcasts side by side

Several broadcasts may be under way at once. Each walks along the connections by their number, and
pauses after every message that it sends; meanwhile clients come and go and other broadcasts go on.
A broadcast ends when there is no connection with the next number, and then disconnects those that
it lost.

## The model

A `Move` is what happens between two pauses. The state keeps the hub, the broadcasts in the order in
which they began, and what was sent so far.
-/

namespace Automation

/-- A broadcast that has begun. -/
structure Broadcast (κ : Type) where
  /-- What is sent. -/
  message : Text
  /-- The number of the next connection. -/
  next : Nat := 0
  /-- The clients that were not reached. -/
  lost : List κ := []
  /-- Whether it is at its end. -/
  ended : Bool := false
  deriving DecidableEq, Repr

/-- A message on its way to a client. -/
structure Dispatch (κ : Type) where
  /-- The number of the broadcast. -/
  broadcast : Nat
  /-- The client. -/
  client : κ
  /-- Whether it arrives. -/
  arrives : Bool
  deriving DecidableEq, Repr

/-- A hub with the broadcasts that have begun. -/
structure Traffic (κ : Type) where
  /-- The hub. -/
  hub : Hub κ := {}
  /-- The broadcasts in the order in which they began. -/
  broadcasts : List (Broadcast κ) := []
  /-- What was sent, in order. -/
  sent : List (Dispatch κ) := []
  deriving DecidableEq, Repr

/-- What happens between two pauses. -/
inductive Move (κ : Type) where
  /-- A client is connected. -/
  | connect (client : κ)
  /-- A client is disconnected. -/
  | disconnect (client : κ)
  /-- A broadcast begins. -/
  | begin (message : Text)
  /-- The broadcast with a number goes on; its next message arrives or not. -/
  | proceed (broadcast : Nat) (arrives : Bool)
  deriving DecidableEq, Repr

namespace Traffic

variable {κ : Type} [DecidableEq κ]

/-- A broadcast goes on: it sends to the connection with the next number, or ends. -/
def proceed (t : Traffic κ) (i : Nat) (b : Broadcast κ) (arrives : Bool) : Traffic κ :=
  match t.hub.active[b.next]? with
  | some client =>
    let lost := if arrives then b.lost else b.lost ++ [client]
    { t with
      broadcasts := t.broadcasts.set i { b with next := b.next + 1, lost }
      sent := t.sent ++ [⟨i, client, arrives⟩] }
  | none =>
    { t with
      hub := t.hub.disconnectAll b.lost
      broadcasts := t.broadcasts.set i { b with ended := true } }

/-- The state after a move. A broadcast that has not begun or is at its end does not go on. -/
def move (t : Traffic κ) : Move κ → Traffic κ
  | .connect client => { t with hub := t.hub.connect client }
  | .disconnect client => { t with hub := t.hub.disconnect client }
  | .begin message => { t with broadcasts := t.broadcasts ++ [{ message }] }
  | .proceed i arrives =>
    match t.broadcasts[i]? with
    | some b => if b.ended then t else t.proceed i b arrives
    | none => t

/-- The state after some moves. -/
def run (t : Traffic κ) (moves : List (Move κ)) : Traffic κ :=
  moves.foldl move t

/-- The numbers of the broadcasts whose messages arrived at a client, in order. -/
def received (t : Traffic κ) (client : κ) : List Nat :=
  (t.sent.filter fun d => d.client = client ∧ d.arrives).map Dispatch.broadcast

end Traffic

end Automation
