import ProcessGraph.Proofs.Onward

/-!
# What prints nothing

* `World.lines_logAll`, `World.lines_send`: events and requests are no lines.
* `Action.Quiet`: an action that prints nothing, however it ends.
* `SystemHandle.quiet_refresh`, `Command.quiet_resolve`, `ProcessHandle.quiet_call`: the operations on handles
  print nothing. What a command prints, it prints itself.
-/

namespace ProcessGraph

variable {ρ σ ε α : Type}

namespace World

@[simp] theorem lines_logAll (w : World ρ) (es : List Log.Event) : (w.logAll es).lines = w.lines := by
  simp [lines, logAll, List.filterMap_append, List.filterMap_map]

@[simp] theorem lines_advanceTo (w : World ρ) (moment : Nat) : (w.advanceTo moment).lines = w.lines := rfl

theorem lines_record (w : World ρ) (text : String) : (w.record (.line text)).lines = w.lines ++ [text] := by
  simp [lines, record]

theorem requests_record (w : World ρ) (text : String) : (w.record (.line text)).requests = w.requests := by
  simp [requests, record]

theorem lines_send [Remote ρ] (w : World ρ) (r : Request) : (w.send r).2.lines = w.lines := by
  simp [lines, send]

/-- Requests, events and waits print nothing. -/
theorem onward_lines [Remote ρ] : Onward fun w v : World ρ => v.lines = w.lines where
  refl _ := rfl
  trans h h' := h'.trans h
  send := lines_send
  logAll := lines_logAll
  advanceTo := lines_advanceTo

end World

/-- The action prints nothing, however it ends. -/
def Action.Quiet (x : Action ρ σ ε α) : Prop := ∀ s w, (x s w).2.2.lines = w.lines

open ProcessGraph.Action (Quiet)

variable [Remote ρ]

theorem ProcessHandle.quiet_call (args : Option Json.Value) :
    Quiet (call args : Action ρ ProcessHandle ε (Option Payload)) :=
  leaves_call World.onward_lines args

theorem SystemHandle.quiet_refresh : Quiet (refresh : Action ρ SystemHandle ClientError SystemProfile) :=
  leaves_refresh World.onward_lines

theorem Command.quiet_resolve (container process : String) :
    Quiet (resolve container process : Action ρ SystemHandle Error ProcessHandle) :=
  leaves_resolve World.onward_lines container process

end ProcessGraph
