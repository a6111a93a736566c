import ProcessGraph.Action

/-!
# Fan-out

* `Branch`: one profile to fetch among siblings, and what is made of the answer.
* `launch`: the branches start in order. An answer that is there at once is taken at once, and the
  first failure keeps the later branches from starting.
* `settle`: the pending answers come by time, at one time by position; again the first failure ends
  it.
* `Action.fanOut`: all branches together: their values in the order of the branches, or the error
  that came first.
-/

namespace ProcessGraph

/-- One profile to fetch among siblings. -/
structure Branch (α : Type) where
  kind : Kind
  identifier : Identifier
  finish : Except ClientError Json.Value → List Log.Event × Except ClientError α

namespace FanOut

variable {ρ α : Type}

/-- A branch whose answer is still to come. -/
structure Pending (α : Type) where
  due : Nat
  events : List Log.Event
  result : Except ClientError α

/-- A branch that has started. -/
inductive Slot (α : Type) where
  | ready (value : α)
  | pending (p : Pending α)
  | unanswered

/-- Puts a started branch in front of those that started after it. -/
def Slot.before (slot : Slot α) : Except ClientError (List (Slot α)) × World ρ →
    Except ClientError (List (Slot α)) × World ρ
  | (.ok slots, w) => (.ok (slot :: slots), w)
  | (.error e, w) => (.error e, w)

/-- Starts the branches in order; ends with the first failure among the answers that are there at
once. -/
def launch [Remote ρ] : List (Branch α) → World ρ → Except ClientError (List (Slot α)) × World ρ
  | [], w => (.ok [], w)
  | b :: rest, w =>
    match w.send (.fetch b.kind (some b.identifier)) with
    | (none, w) => Slot.unanswered.before (launch rest w)
    | (some a, w) =>
      let (events, result) := b.finish a.reply
      let events := a.events ++ events
      if a.after = 0 then
        let w := w.logAll events
        match result with
        | .error e => (.error e, w)
        | .ok x => (Slot.ready x).before (launch rest w)
      else
        (Slot.pending ⟨w.endOfWait a.after, events, result⟩).before (launch rest w)

/-- The branch of a slot, if its answer is still to come. -/
def Slot.pending? : Slot α → Option (Pending α)
  | pending p => some p
  | _ => none

/-- The pending branches, by the time of their answers and then by position. -/
def arrivals (slots : List (Slot α)) : List (Pending α) :=
  (slots.filterMap Slot.pending?).mergeSort fun p q => p.due ≤ q.due

/-- Takes the answers as they come, up to the first failure. -/
def settle : List (Pending α) → World ρ → Option ClientError × World ρ
  | [], w => (none, w)
  | p :: rest, w =>
    let w := (w.advanceTo p.due).logAll p.events
    match p.result with
    | .error e => (some e, w)
    | .ok _ => settle rest w

/-- The value of a branch that has been answered. -/
def Slot.value? : Slot α → Option α
  | ready x => some x
  | pending p => p.result.toOption
  | unanswered => none

end FanOut

open FanOut in
/-- Fetches all branches at once. The values are in the order of the branches.

This is what the documentation of `try_join_all` says: the first failure ends it at once. With more
than thirty branches `try_join_all` takes the results in the order of the branches instead: it fails
with the first error by position, once all branches before it have ended, and a failure at once keeps
the later branches from starting only if those before it have ended. That is left out. -/
def Action.fanOut {ρ σ α : Type} [Remote ρ] (branches : List (Branch α)) :
    Action ρ σ ClientError (List α) := fun s w =>
  match launch branches w with
  | (.error e, w) => (.failed e, s, w)
  | (.ok slots, w) =>
    match settle (arrivals slots) w with
    | (some e, w) => (.failed e, s, w)
    | (none, w) =>
      match slots.mapM Slot.value? with
      | some values => (.done values, s, w)
      | none => (.waiting, s, w)

end ProcessGraph
