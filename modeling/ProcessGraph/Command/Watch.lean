import ProcessGraph.Command.Invocation
import ProcessGraph.Config.Basic
import ProcessGraph.RefreshLoop

/-!
# Watching a process

* `Watcher`: the last result that there was, and whether anything has been printed.
* `Watcher.onTick`: invokes the process and prints its result when it changes.
* `Watch.plan`: the refresh loop of a watch.
* `Command.watch`: sets the system up and watches until the loop ends; `Command.watchFor` watches for some turns.
-/

namespace ProcessGraph.Command

variable {ρ ε : Type}

/-- What a watch keeps from tick to tick. -/
structure Watcher where
  last : Option Payload
  printed : Bool

namespace Watcher

/-- A watch that has seen nothing. -/
def start : Watcher := ⟨none, false⟩

/-- Is a result to be printed? The first one is, and later ones that differ from the last one that
there was. -/
def isNews (w : Watcher) (result : Option Payload) : Bool :=
  !w.printed || !Payload.sameResult result w.last

/-- What is kept after a result. A failed call leaves the last result in place. -/
def see (w : Watcher) (result : Option Payload) : Watcher :=
  ⟨if result.isSome then result else w.last, true⟩

/-- The line of a result. -/
def line (tick : Nat) (result : Option Payload) : String :=
  "[" ++ toString tick ++ "] " ++ render result

end Watcher

/-- What is watched, and how long. -/
structure Watch where
  container : String
  process : String
  arguments : Option String
  interval : Option Nat
  ticks : Option Nat
deriving DecidableEq, Repr

/-- Logs that the process of a watch cannot be resolved. -/
def Watch.unresolved (watch : Watch) (tick : Nat) (e : Error) : Log.Event :=
  .note .warn .watch
    { container := some watch.container, process := some watch.process, tick := some tick }
    ("unable to resolve process: " ++ e.messageWithCause)

/-- An action on the watcher beside the system. -/
def onWatcher {α : Type} (x : Action ρ Watcher ε α) : Action ρ (SystemHandle × Watcher) ε α :=
  Action.onPart Prod.snd (fun w p => (p.1, w)) x

/-- Prints a result if it is news, and keeps it. -/
def Watcher.receive (tick : Nat) (result : Option Payload) : Action ρ Watcher ε Unit := do
  let w ← Action.read
  if w.isNews result then
    Action.printLine (Watcher.line tick result)
  Action.update fun w => w.see result

/-- One tick: resolves the process, invokes it and takes the result. A tick that does not resolve is
logged and changes nothing. -/
def Watch.onTick [Remote ρ] (watch : Watch) (arguments : Option Json.Value) (tick : Nat) :
    Action ρ (SystemHandle × Watcher) ε Unit := do
  match ← RefreshLoop.onSystem (Action.attempt (resolve watch.container watch.process)) with
  | .error e => Action.log (watch.unresolved tick e)
  | .ok process =>
    let result ← Action.apart process (ProcessHandle.call arguments)
    onWatcher (Watcher.receive tick result)

/-- The refresh loop of a watch: its own interval and number of ticks where they are given, or else
the configured ones. -/
def Watch.plan (watch : Watch) (poll : Config.Poll) : RefreshLoop :=
  RefreshLoop.every (watch.interval.getD poll.interval) (watch.ticks.orElse fun _ => poll.maxTicks)

/-- The event for the end of a watch. -/
def finishedEvent (report : LoopReport) : Log.Event :=
  .plain .info .watch "watch finished"
    [("ticks", .number report.ticks), ("failed_refreshes", .number report.failedRefreshes)]

/-- Sets the system up and watches a process as long as its loop is run. The arguments are checked
first. -/
def watchBy [Remote ρ]
    (run : RefreshLoop → (Nat → Action ρ (SystemHandle × Watcher) Error Unit) →
      Action ρ (SystemHandle × Watcher) Error LoopReport)
    (poll : Config.Poll) (watch : Watch) : Action ρ SystemHandle Error Unit := do
  let arguments ← Action.ofExcept (parseArguments watch.arguments)
  let _ ← onSystem SystemHandle.setup
  let report ← Action.beside Watcher.start (run (watch.plan poll) (watch.onTick arguments))
  Action.log (finishedEvent report)

/-- Watches a process until the loop ends. -/
def watch [Remote ρ] : Config.Poll → Watch → Action ρ SystemHandle Error Unit :=
  watchBy fun l handler => l.run none handler

end ProcessGraph.Command
