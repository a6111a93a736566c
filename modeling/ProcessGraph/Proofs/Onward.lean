import ProcessGraph.Command.Invocation
import ProcessGraph.Proofs.Requests
import ProcessGraph.RefreshLoop

/-!
# How actions change the world

Operations on handles change the world by requests, events and waits alone. What holds of these three holds of all of
them, however they end.

* `World.Onward`: a relation of a world to later ones that requests, events and waits keep.
* `Action.Leaves`: an action leaves a world in such a relation to the one it found. It is enough that its parts do.
* `SystemHandle.leaves_refresh`, `Command.leaves_resolve`, `ProcessHandle.leaves_call`: so do the operations on handles.
-/

namespace ProcessGraph

variable {ρ σ τ ε ε' α β π : Type}

/-- A relation of a world to later ones that requests, events and waits keep. -/
structure World.Onward [Remote ρ] (R : World ρ → World ρ → Prop) : Prop where
  refl : ∀ w, R w w
  trans : ∀ {u v w}, R u v → R v w → R u w
  send : ∀ w r, R w (w.send r).2
  logAll : ∀ w es, R w (w.logAll es)
  advanceTo : ∀ w moment, R w (w.advanceTo moment)

section Worlds

variable [Remote ρ] {R : World ρ → World ρ → Prop} (hR : World.Onward R)
include hR

theorem World.Onward.exchange (w : World ρ) (r : Request) : R w (w.exchange r).2 := by
  have h := hR.send w r
  unfold World.exchange
  generalize w.send r = sent at h
  obtain ⟨_ | a, v⟩ := sent
  · exact h
  · exact hR.trans h (hR.trans (hR.advanceTo _ _) (hR.logAll _ _))

theorem FanOut.onward_launch (bs : List (Branch α)) (w : World ρ) : R w (launch bs w).2 := by
  induction bs generalizing w with
  | nil => exact hR.refl w
  | cons b rest ih =>
    have hsend := hR.send w (.fetch b.kind (some b.identifier))
    unfold launch
    generalize w.send (.fetch b.kind (some b.identifier)) = sent at hsend
    obtain ⟨_ | a, v⟩ := sent
    · rw [Slot.before_snd]
      exact hR.trans hsend (ih v)
    · simp only
      split
      next =>
        have hlog := hR.trans hsend (hR.logAll v (a.events ++ (b.finish a.reply).1))
        cases (b.finish a.reply).2 with
        | error e => exact hlog
        | ok x =>
          rw [Slot.before_snd]
          exact hR.trans hlog (ih _)
      next =>
        rw [Slot.before_snd]
        exact hR.trans hsend (ih v)

theorem FanOut.onward_settle (ps : List (Pending α)) (w : World ρ) : R w (settle ps w).2 := by
  induction ps generalizing w with
  | nil => exact hR.refl w
  | cons p rest ih =>
    have harrival := hR.trans (hR.advanceTo w p.due) (hR.logAll (w.advanceTo p.due) p.events)
    unfold settle
    cases p.result with
    | error e => exact harrival
    | ok x => exact hR.trans harrival (ih _)

end Worlds

/-! ## actions -/

namespace Action

/-- The action leaves a world in relation to the one it found, however it ends. -/
def Leaves (R : World ρ → World ρ → Prop) (x : Action ρ σ ε α) : Prop := ∀ s w, R w (x s w).2.2

namespace Leaves

variable {R : World ρ → World ρ → Prop}

theorem bind [Remote ρ] (hR : World.Onward R) {x : Action ρ σ ε α} {f : α → Action ρ σ ε β} (hx : Leaves R x)
    (hf : ∀ a, Leaves R (f a)) : Leaves R (x >>= f) := by
  intro s w
  have h := hx s w
  rw [bind_apply]
  generalize x s w = r at h
  obtain ⟨a | e | _, t, v⟩ := r
  · exact hR.trans h (hf a t v)
  · exact h
  · exact h

theorem attempt {x : Action ρ σ ε α} (hx : Leaves R x) : Leaves R (attempt x : Action ρ σ ε' (Except ε α)) := by
  intro s w
  have h := hx s w
  rw [attempt_apply]
  generalize x s w = r at h
  obtain ⟨a | e | _, t, v⟩ := r <;> exact h

theorem mapError {x : Action ρ σ ε α} (f : ε → ε') (hx : Leaves R x) : Leaves R (mapError f x) := by
  intro s w
  have h := hx s w
  unfold Action.mapError
  generalize x s w = r at h
  obtain ⟨a | e | _, t, v⟩ := r <;> exact h

theorem onPart {x : Action ρ τ ε α} (get : σ → τ) (put : τ → σ → σ) (hx : Leaves R x) :
    Leaves R (onPart get put x) := fun s w => hx (get s) w

end Leaves

variable [Remote ρ] {R : World ρ → World ρ → Prop} (hR : World.Onward R)
include hR

theorem leaves_pure (a : α) : Leaves R (pure a : Action ρ σ ε α) := fun _ w => hR.refl w

theorem leaves_fail (e : ε) : Leaves R (fail e : Action ρ σ ε α) := fun _ w => hR.refl w

theorem leaves_read : Leaves R (read : Action ρ σ ε σ) := fun _ w => hR.refl w

theorem leaves_update (f : σ → σ) : Leaves R (update f : Action ρ σ ε Unit) := fun _ w => hR.refl w

theorem leaves_logAll (es : List Log.Event) : Leaves R (logAll es : Action ρ σ ε Unit) := fun _ w => hR.logAll w es

theorem leaves_log (e : Log.Event) : Leaves R (log e : Action ρ σ ε Unit) := leaves_logAll hR [e]

theorem leaves_sleep (duration : Nat) : Leaves R (sleep duration : Action ρ σ ε Unit) := fun _ w => hR.advanceTo w _

theorem leaves_ofExcept (x : Except ε α) : Leaves R (ofExcept x : Action ρ σ ε α) := by
  cases x with
  | error e => exact leaves_fail hR e
  | ok a => exact leaves_pure hR a

theorem leaves_ask (r : Request) : Leaves R (ask r : Action ρ σ ε r.Reply) := by
  intro s w
  have h := hR.exchange w r
  rw [ask_apply]
  generalize w.exchange r = answered at h
  obtain ⟨_ | reply, v⟩ := answered <;> exact h

theorem leaves_fanOut (bs : List (Branch α)) : Leaves R (fanOut bs : Action ρ σ ClientError (List α)) := by
  intro s w
  have hlaunch := FanOut.onward_launch hR bs w
  unfold fanOut
  generalize FanOut.launch bs w = launched at hlaunch
  obtain ⟨e | slots, v⟩ := launched
  · exact hlaunch
  · have hsettle := hR.trans hlaunch (FanOut.onward_settle hR (FanOut.arrivals slots) v)
    simp only
    generalize FanOut.settle (FanOut.arrivals slots) v = settled at hsettle
    obtain ⟨_ | e, u⟩ := settled
    · simp only
      cases slots.mapM FanOut.Slot.value? <;> exact hsettle
    · exact hsettle

theorem leaves_adopt (kind : Kind) (id : Option Identifier)
    (receive : Except ClientError Json.Value → List Log.Event × Except ClientError π) (put : π → σ → σ) :
    Leaves R (adopt kind id receive put : Action ρ σ ClientError π) :=
  .bind hR (leaves_ask hR _) fun _ => .bind hR (leaves_logAll hR _) fun _ => .bind hR (leaves_ofExcept hR _) fun _ =>
    .bind hR (leaves_update hR _) fun _ => leaves_pure hR _

theorem leaves_gather (branches : List (Branch α)) (value : List α → β) (keep : List α → σ → σ) :
    Leaves R (gather branches value keep : Action ρ σ ClientError β) :=
  .bind hR (leaves_fanOut hR _) fun _ => .bind hR (leaves_update hR _) fun _ => leaves_pure hR _

theorem leaves_remember (kept : σ → Option (List α)) (siblings : σ → Except ClientError (List (Branch α)))
    (keep : List α → σ → σ) : Leaves R (remember kept siblings keep : Action ρ σ ClientError (List α)) := by
  refine .bind hR (leaves_read hR) fun s => ?_
  cases kept s with
  | some xs => exact leaves_pure hR xs
  | none => exact .bind hR (leaves_ofExcept hR _) fun _ => leaves_gather hR _ _ _

end Action

/-! ## operations on handles -/

open ProcessGraph.Action (Leaves)

variable [Remote ρ] {R : World ρ → World ρ → Prop} (hR : World.Onward R)

section Handles

include hR

theorem ProcessHandle.leaves_call (args : Option Json.Value) :
    Leaves R (call args : Action ρ ProcessHandle ε (Option Payload)) := by
  refine .bind hR (Action.leaves_read hR) fun p => .bind hR (Action.leaves_ask hR _) fun result => ?_
  cases result with
  | some a => exact Action.leaves_pure hR _
  | none => exact .bind hR (Action.leaves_log hR _) fun _ => Action.leaves_pure hR _

theorem ContainerHandle.leaves_find (q : Query) :
    Leaves R (find q : Action ρ ContainerHandle ClientError (Option ProcessHandle)) := by
  unfold find
  cases q.typeName with
  | none => exact Action.leaves_pure hR none
  | some name =>
    refine .bind hR ?_ fun _ => Action.leaves_pure hR _
    rw [enumerate_eq]
    exact Action.leaves_remember hR _ _ _

namespace SystemHandle

theorem leaves_find (q : Query) : Leaves R (find q : Action ρ SystemHandle ClientError (Option Nat)) := by
  unfold find
  cases q.typeName with
  | none => exact Action.leaves_pure hR none
  | some name =>
    refine .bind hR ?_ fun _ => Action.leaves_pure hR _
    rw [enumerate_eq]
    exact Action.leaves_remember hR _ _ _

theorem leaves_reconcile : Leaves R (reconcile : Action ρ SystemHandle ClientError Nat) := by
  intro s w
  have h := hR.exchange w (.fetch .system none)
  rw [reconcile_apply]
  generalize w.exchange (.fetch .system none) = answered at h
  obtain ⟨_ | reply, v⟩ := answered
  · exact h
  · simp only
    cases receive reply with
    | error e => exact h
    | ok profile =>
      cases s.containers with
      | none => exact h
      | some cached => exact hR.trans h (Action.leaves_gather hR _ _ _ s v)

theorem leaves_refresh : Leaves R (refresh : Action ρ SystemHandle ClientError SystemProfile) := by
  refine .bind hR (Action.leaves_read hR) fun s => ?_
  cases s.isReady with
  | true =>
    exact .bind hR (leaves_reconcile hR).attempt fun _ => .bind hR (Action.leaves_log hR _) fun _ =>
      .bind hR (Action.leaves_ofExcept hR _) fun _ => .bind hR (Action.leaves_read hR) fun _ =>
        Action.leaves_ofExcept hR _
  | false => exact Action.leaves_fail hR _

theorem leaves_onContainer {x : Action ρ ContainerHandle ε α} (i : Nat) (hx : Leaves R x) :
    Leaves R (onContainer i x) := by
  intro s w
  unfold onContainer
  cases s.containers with
  | none => exact hR.refl w
  | some containers =>
    simp only
    cases containers[i]? with
    | none => exact hR.refl w
    | some c =>
      have h := hx c w
      simp only
      generalize x c w = r at h
      obtain ⟨a | e | _, d, v⟩ := r <;> exact h

end SystemHandle

theorem Command.leaves_resolve (container process : String) :
    Leaves R (resolve container process : Action ρ SystemHandle Error ProcessHandle) := by
  refine .bind hR (.mapError _ (SystemHandle.leaves_find hR _)) fun position => ?_
  cases position with
  | none => exact Action.leaves_fail hR _
  | some i =>
    refine .bind hR (.bind hR (.mapError _ (SystemHandle.leaves_onContainer hR i (ContainerHandle.leaves_find hR _)))
      fun found => ?_) fun found => ?_
    · cases found with
      | none => exact Action.leaves_fail hR _
      | some p => exact Action.leaves_pure hR p
    · cases found with
      | none => exact Action.leaves_fail hR _
      | some p => exact Action.leaves_pure hR p

end Handles

end ProcessGraph
