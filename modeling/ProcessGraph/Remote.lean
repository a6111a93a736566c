import ProcessGraph.Error
import ProcessGraph.Log
import ProcessGraph.Payload
import ProcessGraph.Profile

/-!
# The remote side

* `Request`: what is asked of the remote side; `Request.Reply`: what answers it.
* `Answer`: a reply, the time it takes, and what the transport logs about it.
* `Remote`: a state that answers requests.
* `World`: a remote side, a clock and what has happened; `World.endOfWait`: when a wait ends.
-/

namespace ProcessGraph

/-- What is asked of the remote side. -/
inductive Request where
  | fetch (kind : Kind) (id : Option Identifier)
  | list (kind : Kind)
  | call (id : Identifier) (args : Json.Value)
  | execute (id : Identifier)

/-- What answers a request. Reads fail with an error, invocations without one. -/
abbrev Request.Reply : Request → Type
  | fetch _ _ => Except ClientError Json.Value
  | list _ => Except ClientError (List Identifier)
  | call _ _ => Option Payload
  | execute _ => Option Payload

/-- A reply that comes `after` milliseconds. -/
structure Answer (α : Type) where
  after : Nat
  reply : α
  events : List Log.Event

/-- A state of the remote side and of the way to it. The reply is settled when the request starts;
there is none if the request is never answered. -/
class Remote (ρ : Type) where
  answer : ρ → (r : Request) → Option (Answer r.Reply) × ρ

/-- What can be seen of a run. -/
inductive Happening where
  | request (r : Request)
  | event (e : Log.Event)
  | line (text : String)

/-- The remote side, the clock in milliseconds, and all that has happened, the earliest first. -/
structure World (ρ : Type) where
  remote : ρ
  now : Nat
  history : List Happening

namespace World

variable {ρ : Type}

/-- The world at the start of its clock. -/
def start (remote : ρ) : World ρ := ⟨remote, 0, []⟩

/-- The requests made so far. -/
def requests (w : World ρ) : List Request :=
  w.history.filterMap fun
    | .request r => some r
    | _ => none

/-- The events logged so far. -/
def events (w : World ρ) : List Log.Event :=
  w.history.filterMap fun
    | .event e => some e
    | _ => none

/-- The lines printed so far. -/
def lines (w : World ρ) : List String :=
  w.history.filterMap fun
    | .line s => some s
    | _ => none

/-- Adds to what has happened. -/
def record (w : World ρ) (h : Happening) : World ρ := { w with history := w.history ++ [h] }

/-- Logs events in order. -/
def logAll (w : World ρ) (es : List Log.Event) : World ρ :=
  { w with history := w.history ++ es.map .event }

/-- The longest that a timer runs, in milliseconds: thirty years of 365 days. A timer that is set for later goes off
then. -/
def longestWait : Nat := 30 * 365 * 86400000

/-- The moment at which a wait ends that begins now. -/
def endOfWait (w : World ρ) (duration : Nat) : Nat := w.now + min duration longestWait

/-- Moves the clock on to a moment, unless it is past already. -/
def advanceTo (w : World ρ) (moment : Nat) : World ρ := { w with now := max w.now moment }

/-- Starts a request. -/
def send [Remote ρ] (w : World ρ) (r : Request) : Option (Answer r.Reply) × World ρ :=
  let (answer, remote) := Remote.answer w.remote r
  (answer, { w with remote := remote, history := w.history ++ [.request r] })

end World

end ProcessGraph
