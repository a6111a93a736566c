import ProcessGraph.SystemHandle

/-!
# Refresh loops

* `Ticker`: the moments at which ticks are due. A tick that is taken late puts off the next one.
* `RefreshLoop`: an interval of at least a millisecond and possibly a limit on ticks.
* `RefreshLoop.turn`: what comes next: the limit, the shutdown or a tick.
* `RefreshLoop.tick`: a refresh, whose failure is logged and counted, and then the handler.
* `RefreshLoop.run`: ticks until the limit is reached or the shutdown has come.
-/

namespace ProcessGraph

/-! ## ticks -/

/-- How many milliseconds late a tick may be taken without putting off the next one. -/
def Ticker.tolerance : Nat := 5

/-- When a tick due at `due` is taken at `taken`, the moment for which the next one is set: a whole
period later, counted from a tick that is too late to put up with, or else from the moment that it
was due. -/
def Ticker.scheduled (period due taken : Nat) : Nat :=
  (if due + Ticker.tolerance < taken then taken else due) + period

/-- The moment at which the next tick is due: that for which it is set, unless no timer runs that
long. With a period of 946080000001 milliseconds the second tick comes 946080000000 milliseconds
after the first. -/
def Ticker.next (period due taken : Nat) : Nat :=
  min (Ticker.scheduled period due taken) (taken + World.longestWait)

/-- A loop that refreshes a system at an interval. -/
structure RefreshLoop where
  interval : Nat
  maxTicks : Option Nat
  interval_pos : 0 < interval

/-- How many ticks a loop made, and how many of their refreshes failed. -/
structure LoopReport where
  ticks : Nat
  failedRefreshes : Nat
deriving DecidableEq, Repr

namespace RefreshLoop

variable {ρ η ε : Type}

/-- A loop with an interval in milliseconds, at least one. -/
def every (interval : Nat) (maxTicks : Option Nat) : RefreshLoop :=
  ⟨max interval 1, maxTicks, by omega⟩

/-- The loop with another limit on its ticks. -/
def withMaxTicks (l : RefreshLoop) (n : Nat) : RefreshLoop := { l with maxTicks := some n }

/-- What comes next in a loop. -/
inductive Turn where
  | limit
  | shutdown (moment : Nat)
  | tick (moment : Nat)
deriving DecidableEq, Repr

/-- What comes next after `ticks` ticks, the next of which is due at `due`. The limit is looked at
first; at a common instant the shutdown wins over the tick. -/
def turn (l : RefreshLoop) (shutdown : Option Nat) (ticks due now : Nat) : Turn :=
  if l.maxTicks.any (· ≤ ticks) then .limit
  else
    let moment := max now due
    match shutdown with
    | none => .tick moment
    | some s => if s ≤ moment then .shutdown (max now s) else .tick moment

/-- The message for a failed refresh. -/
def failureMessage (e : ClientError) : String :=
  let what := if e.isTransient then "retrying next tick" else "keeping previous profile"
  "system refresh failed (" ++ what ++ "): " ++ e.message

/-- An action on the system beside the state of a handler. -/
def onSystem {α : Type} (x : Action ρ SystemHandle ε α) : Action ρ (SystemHandle × η) ε α :=
  Action.onPart Prod.fst (fun s p => (s, p.2)) x

/-- One tick. Tells whether the refresh failed; the handler runs in either case. -/
def tick [Remote ρ] (handler : Nat → Action ρ (SystemHandle × η) ε Unit) (n : Nat) :
    Action ρ (SystemHandle × η) ε Bool := do
  let result ← onSystem (Action.attempt SystemHandle.refresh)
  match result with
  | .ok _ =>
    handler n
    return false
  | .error e =>
    Action.log (.note .warn .refreshLoop { tick := some n } (failureMessage e))
    handler n
    return true

/-- Turns of a loop, at most `fuel` of them. -/
def turns [Remote ρ] (l : RefreshLoop) (shutdown : Option Nat)
    (handler : Nat → Action ρ (SystemHandle × η) ε Unit) :
    Nat → Nat → LoopReport → Action ρ (SystemHandle × η) ε LoopReport
  | 0, _, _ => Action.wait
  | fuel + 1, due, report => do
    let now ← Action.clock
    match l.turn shutdown report.ticks due now with
    | .limit => return report
    | .shutdown moment =>
      Action.sleepUntil moment
      Action.log (.plain .debug .refreshLoop "refresh loop shutdown requested" [])
      return report
    | .tick moment =>
      Action.sleepUntil moment
      let failed ← tick handler report.ticks
      turns l shutdown handler fuel (Ticker.next l.interval due moment)
        ⟨report.ticks + 1, report.failedRefreshes + (if failed then 1 else 0)⟩

/-- The text of the limit on ticks in a log. -/
def limitText : Option Nat → String
  | some n => "Some(" ++ toString n ++ ")"
  | none => "None"

/-- The event for the start of a loop. -/
def startedEvent (l : RefreshLoop) : Log.Event :=
  .plain .info .refreshLoop "refresh loop started"
    [("interval_ms", .number l.interval), ("max_ticks", .text (limitText l.maxTicks))]

/-- The event for the end of a loop. -/
def stoppedEvent (report : LoopReport) : Log.Event :=
  .plain .info .refreshLoop "refresh loop stopped"
    [("ticks", .number report.ticks), ("failed_refreshes", .number report.failedRefreshes)]

/-- More turns than a loop that starts at `now` can make: one for each tick below the limit, or for
each millisecond until the shutdown, and one for the end. A loop with neither never ends. -/
def enough (l : RefreshLoop) (shutdown : Option Nat) (now : Nat) : Nat :=
  match l.maxTicks, shutdown with
  | some n, _ => n + 1
  | none, some s => s - now + 1
  | none, none => 0

/-- Runs a loop for at most `fuel` turns. -/
def runFor [Remote ρ] (l : RefreshLoop) (shutdown : Option Nat)
    (handler : Nat → Action ρ (SystemHandle × η) ε Unit) (fuel : Nat) :
    Action ρ (SystemHandle × η) ε LoopReport := do
  let now ← Action.clock
  Action.log l.startedEvent
  let report ← turns l shutdown handler fuel now ⟨0, 0⟩
  Action.log (stoppedEvent report)
  return report

/-- Runs a loop until its limit is reached or the shutdown has come. The first tick is due at
once. -/
def run [Remote ρ] (l : RefreshLoop) (shutdown : Option Nat)
    (handler : Nat → Action ρ (SystemHandle × η) ε Unit) : Action ρ (SystemHandle × η) ε LoopReport := do
  let now ← Action.clock
  runFor l shutdown handler (l.enough shutdown now)

end RefreshLoop

end ProcessGraph
