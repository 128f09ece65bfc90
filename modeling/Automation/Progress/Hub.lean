import Automation.Json.Printer
import Automation.Progress.Event

/-!
# The hub

Clients that want to follow progress are connected to a hub. The hub keeps them in the order in
which they were connected, and a client that is connected twice is kept twice. A broadcast is sent
to every connection in order; whoever cannot be reached any more is disconnected when all have had
their turn.
-/

namespace Automation

/-- A hub, with clients of some type. -/
structure Hub (κ : Type) where
  /-- The connections, in order. -/
  active : List κ := []
  deriving DecidableEq, Repr

/-- How a client stops listening. -/
inductive Parting where
  /-- It takes its leave. -/
  | leaves
  /-- Its connection breaks down. -/
  | breaks
  deriving DecidableEq, Repr

namespace Hub

variable {κ : Type} [DecidableEq κ]

/-- The hub with one more connection. -/
def connect (h : Hub κ) (client : κ) : Hub κ :=
  ⟨h.active ++ [client]⟩

/-- The hub without the first connection of a client, if it has one. -/
def disconnect (h : Hub κ) (client : κ) : Hub κ :=
  ⟨h.active.erase client⟩

/-- The hub without one connection for each of some clients. -/
def disconnectAll (h : Hub κ) (clients : List κ) : Hub κ :=
  clients.foldl disconnect h

/-- The connections that a broadcast reaches. -/
def reached (h : Hub κ) (works : κ → Bool) : List κ :=
  h.active.filter works

/-- The connections that a broadcast does not reach. -/
def lost (h : Hub κ) (works : κ → Bool) : List κ :=
  h.active.filter fun client => !works client

/-- The hub after a broadcast. -/
def broadcast (h : Hub κ) (works : κ → Bool) : Hub κ :=
  h.disconnectAll (h.lost works)

/-- A client is connected and listens for a number of texts, then stops. The answer is how many
connections there are whenever it waits for a text, and the hub afterwards. A connection that breaks
down is not noticed before the next broadcast. -/
def listen (h : Hub κ) (client : κ) (texts : Nat) : Parting → List Nat × Hub κ
  | .leaves =>
    let connected := h.connect client
    (List.replicate (texts + 1) connected.active.length, connected.disconnect client)
  | .breaks =>
    let connected := h.connect client
    (List.replicate (texts + 1) connected.active.length, connected)

end Hub

/-- The message by which an event is told to clients. -/
def ProgressEvent.announcement (e : ProgressEvent) : Text :=
  Json.write (.asciiLine)
    (.ofFields [("type", "generation_progress"), ("payload", e.toJson)])

end Automation
