import ProcessGraph.Proofs.Onward
import ProcessGraph.Proofs.RefreshLoop

/-!
# The pace of a refresh loop

* `Ticker.Delays`: the rule for late ticks, without a longest wait.
* `Ticker.Timeline`: due times, beginnings and durations of ticks in a row. `Ticker.Paced`: the distances between
  the beginnings. `Timeline.paced`: they follow, with the period that no wait exceeds.
* `Action.Forward`: an action that does not turn back the clock, however it ends.
* `RefreshLoop.Course`: ticks of a loop that lead from one checkpoint to the next.
* `RefreshLoop.ticks_paced`: the ticks of a loop are paced, whatever each of them does and however long it takes.
-/

namespace ProcessGraph

variable {ρ σ η ε α : Type}

/-! ## tickers -/

namespace Ticker

/-- The rule for ticks that are taken late: one that is late beyond the tolerance puts off the next one, any other
one does not. It is the rule for which moments ticks are set; that they are due then is to say that no timer goes off
before. -/
def Delays (period : Nat) : Prop :=
  ∀ due taken, due ≤ taken →
    next period due taken = if due + tolerance < taken then taken + period else due + period

/-- The period of a ticker, of which no wait exceeds the longest. -/
def pace (period : Nat) : Nat := min period World.longestWait

/-- The rule holds as long as a period is no longer than the longest wait. -/
theorem delays_iff {period : Nat} : Delays period ↔ pace period = period := by
  constructor
  · intro h
    have hfirst := h 0 0 (Nat.le_refl 0)
    simpa [next, scheduled, pace, tolerance] using hfirst
  · intro h due taken hle
    unfold pace at h
    unfold next scheduled
    split <;> omega

/-- A timer that is set for more than thirty years goes off before. -/
example : next 946080000001 0 0 = 946080000000 := by decide

/-- Ticks in a row: the first is due at once, and each is taken as soon as it is due and the one before is done. -/
structure Timeline (period n : Nat) (due start duration : Nat → Nat) : Prop where
  first : due 0 = start 0
  due_succ : ∀ k < n, due (k + 1) = next period (due k) (start k)
  start_succ : ∀ k < n, start (k + 1) = max (start k + duration k) (due (k + 1))

/-- The distances between the beginnings of ticks in a row. -/
structure Paced (period n : Nat) (due start duration : Nat → Nat) : Prop where
  /-- No tick begins before the one before is done. -/
  apart : ∀ k < n, start k + duration k ≤ start (k + 1)
  /-- Ticks are not bunched, beyond the tolerance. -/
  unbunched : ∀ k < n, start k + period ≤ start (k + 1) + tolerance
  /-- No tick is put off further than it must. -/
  prompt : ∀ k < n, start (k + 1) ≤ start k + max period (duration k)
  /-- After a tick that was late beyond the tolerance there is a whole period. -/
  late : ∀ k < n, due k + tolerance < start k → start k + period ≤ start (k + 1)
  /-- Ticks that take no longer than a period do not drift. -/
  steady : ∀ m ≤ n, (∀ k < m, duration k ≤ period) → start m = start 0 + m * period

theorem next_le (period due taken : Nat) (h : due ≤ taken) : next period due taken ≤ taken + pace period := by
  unfold next scheduled pace
  split <;> omega

theorem le_next (period due taken : Nat) : taken + pace period ≤ next period due taken + tolerance := by
  unfold next scheduled pace
  split <;> omega

theorem next_of_late {period due taken : Nat} (h : due + tolerance < taken) :
    next period due taken = taken + pace period := by
  simp only [next, scheduled, pace, if_pos h]
  omega

theorem next_of_punctual (period moment : Nat) : next period moment moment = moment + pace period := by
  have hpunctual : ¬ moment + tolerance < moment := by omega
  simp only [next, scheduled, pace, if_neg hpunctual]
  omega

variable {period n : Nat} {due start duration : Nat → Nat}

theorem Timeline.due_le (h : Timeline period n due start duration) {k : Nat} (hk : k ≤ n) : due k ≤ start k := by
  cases k with
  | zero => exact Nat.le_of_eq h.first
  | succ k =>
    rw [h.start_succ k hk]
    exact Nat.le_max_right _ _

/-- As long as no tick takes longer than the pace, each is taken when it is due. -/
theorem Timeline.punctual (h : Timeline period n due start duration) {m : Nat} (hm : m ≤ n)
    (hshort : ∀ k < m, duration k ≤ pace period) : due m = start m ∧ start m = start 0 + m * pace period := by
  induction m with
  | zero => exact ⟨h.first, by omega⟩
  | succ m ih =>
    obtain ⟨hdue, hstart⟩ := ih (by omega) fun k hk => hshort k (by omega)
    have hnext := h.due_succ m hm
    rw [hdue, next_of_punctual] at hnext
    have hsucc := h.start_succ m hm
    have hlast := hshort m (by omega)
    rw [Nat.succ_mul]
    omega

/-- **Ticks in a row are paced.** -/
theorem Timeline.paced (h : Timeline period n due start duration) :
    Paced (pace period) n due start duration where
  apart k hk := by
    rw [h.start_succ k hk]
    exact Nat.le_max_left _ _
  unbunched k hk := by
    have hnext := le_next period (due k) (start k)
    rw [← h.due_succ k hk] at hnext
    have hdue := h.due_le (k := k + 1) hk
    omega
  prompt k hk := by
    have hnext := next_le period (due k) (start k) (h.due_le (Nat.le_of_lt hk))
    rw [← h.due_succ k hk] at hnext
    rw [h.start_succ k hk]
    omega
  late k hk hlate := by
    have hnext := h.due_succ k hk
    rw [next_of_late hlate] at hnext
    have hdue := h.due_le (k := k + 1) hk
    omega
  steady m hm hshort := (h.punctual hm hshort).2

end Ticker

/-! ## actions that do not turn back the clock -/

/-- Requests, events and waits do not turn back the clock. -/
theorem World.onward_now [Remote ρ] : Onward fun w v : World ρ => w.now ≤ v.now where
  refl w := Nat.le_refl w.now
  trans := Nat.le_trans
  send w _ := Nat.le_refl w.now
  logAll w _ := Nat.le_refl w.now
  advanceTo w moment := Nat.le_max_left w.now moment

/-- The action does not turn back the clock, however it ends. -/
def Action.Forward (x : Action ρ σ ε α) : Prop := ∀ s w, w.now ≤ (x s w).2.2.now

open ProcessGraph.Action (Forward)

/-! ## the course of a loop -/

namespace RefreshLoop

/-- A loop between two ticks. -/
structure Checkpoint (ρ η : Type) where
  due : Nat
  report : LoopReport
  state : SystemHandle × η
  world : World ρ

/-- A loop that has begun. The first tick is due at once. -/
def begun (l : RefreshLoop) (c : SystemHandle × η) (w : World ρ) : Checkpoint ρ η :=
  ⟨w.now, ⟨0, 0⟩, c, w.logAll [l.startedEvent]⟩

variable [Remote ρ] {l : RefreshLoop} {handler : Nat → Action ρ (SystemHandle × η) ε Unit}

/-- A loop without a shutdown goes on from a checkpoint, for at most `fuel` turns. -/
def goesOn (l : RefreshLoop) (handler : Nat → Action ρ (SystemHandle × η) ε Unit) (fuel : Nat)
    (x : Checkpoint ρ η) : Outcome ε LoopReport × (SystemHandle × η) × World ρ :=
  turns l none handler fuel x.due x.report x.state x.world

/-- One tick leads from one checkpoint to the next: what comes next is a tick that begins at `start`, and its refresh
and handler are done after `duration` milliseconds. -/
structure Leads (l : RefreshLoop) (handler : Nat → Action ρ (SystemHandle × η) ε Unit) (x y : Checkpoint ρ η)
    (start duration : Nat) : Prop where
  turn : l.turn none x.report.ticks x.due x.world.now = .tick start
  ticked : ∃ failed, tick handler x.report.ticks x.state (x.world.advanceTo start) = (.done failed, y.state, y.world) ∧
    y.report = ⟨x.report.ticks + 1, x.report.failedRefreshes + if failed then 1 else 0⟩
  due : y.due = Ticker.next l.interval x.due start
  finish : y.world.now = start + duration

/-- The first ticks of a loop without a shutdown: tick `k` begins at `start k` and takes `duration k` milliseconds for
all `k` below `n`, and tick `n` begins at `start n`. -/
structure Course (l : RefreshLoop) (handler : Nat → Action ρ (SystemHandle × η) ε Unit) (x₀ : Checkpoint ρ η)
    (n : Nat) (x : Nat → Checkpoint ρ η) (start duration : Nat → Nat) : Prop where
  first : x 0 = x₀
  leads : ∀ k < n, Leads l handler (x k) (x (k + 1)) (start k) (duration k)
  last : l.turn none (x n).report.ticks (x n).due (x n).world.now = .tick (start n)

theorem Leads.goesOn {x y : Checkpoint ρ η} {start duration : Nat} (h : Leads l handler x y start duration)
    (fuel : Nat) : l.goesOn handler (fuel + 1) x = l.goesOn handler fuel y := by
  obtain ⟨failed, htick, hreport⟩ := h.ticked
  unfold RefreshLoop.goesOn
  rw [turns_succ, h.turn]
  simp only
  rw [Action.bind_apply, htick]
  simp only
  rw [← hreport, ← h.due]

omit [Remote ρ] in
theorem start_eq_of_turn {ticks due now start : Nat} (h : l.turn none ticks due now = .tick start) :
    start = max now due := by
  have hsays := l.turn_says none ticks due now
  rw [h] at hsays
  exact hsays.1

section Course

variable {x₀ : Checkpoint ρ η} {n : Nat} {x : Nat → Checkpoint ρ η} {start duration : Nat → Nat}

/-- **A loop goes through its course**: what it does from the first checkpoint it does from any later one. -/
theorem Course.goesOn (h : Course l handler x₀ n x start duration) {k : Nat} (hk : k ≤ n) (fuel : Nat) :
    l.goesOn handler (k + fuel) x₀ = l.goesOn handler fuel (x k) := by
  induction k generalizing fuel with
  | zero => rw [Nat.zero_add, h.first]
  | succ k ih =>
    have hrest := ih (by omega) (fuel + 1)
    rw [(h.leads k hk).goesOn] at hrest
    rw [← hrest]
    congr 1
    omega

theorem Course.turn (h : Course l handler x₀ n x start duration) {k : Nat} (hk : k ≤ n) :
    l.turn none (x k).report.ticks (x k).due (x k).world.now = .tick (start k) := by
  rcases Nat.lt_or_eq_of_le hk with hlt | rfl
  · exact (h.leads k hlt).turn
  · exact h.last

/-- The ticks of a loop are taken in a row. -/
theorem Course.timeline (h : Course l handler x₀ n x start duration) (hdue : x₀.due = x₀.world.now) :
    Ticker.Timeline l.interval n (fun k => (x k).due) start duration where
  first := by
    rw [start_eq_of_turn (h.turn (Nat.zero_le n)), h.first, hdue, Nat.max_self]
  due_succ k hk := (h.leads k hk).due
  start_succ k hk := by
    rw [start_eq_of_turn (h.turn (k := k + 1) hk), (h.leads k hk).finish]

end Course

/-! ## runs that end -/

theorem forward_tick (hhandler : ∀ n, Forward (handler n)) (n : Nat) : Forward (tick handler n) := by
  have hnow := World.onward_now (ρ := ρ)
  refine Action.Leaves.bind hnow (.onPart _ _ (SystemHandle.leaves_refresh hnow).attempt) fun result => ?_
  cases result with
  | ok profile => exact .bind hnow (hhandler n) fun _ => Action.leaves_pure hnow _
  | error e =>
    exact .bind hnow (Action.leaves_log hnow _) fun _ => .bind hnow (hhandler n) fun _ => Action.leaves_pure hnow _

/-- A sequence with one more element in front. -/
def prepend (a : α) (f : Nat → α) : Nat → α
  | 0 => a
  | k + 1 => f k

/-- A tick in front of a course. -/
theorem Course.cons {x₀ x₁ : Checkpoint ρ η} {n moment elapsed : Nat} {x : Nat → Checkpoint ρ η}
    {start duration : Nat → Nat} (hleads : Leads l handler x₀ x₁ moment elapsed)
    (h : Course l handler x₁ n x start duration) :
    Course l handler x₀ (n + 1) (prepend x₀ x) (prepend moment start) (prepend elapsed duration) where
  first := rfl
  leads k hk := by
    cases k with
    | zero =>
      obtain rfl := h.first
      exact hleads
    | succ k => exact h.leads k (by omega)
  last := h.last

/-- **A loop that comes to an end has gone through a course** up to each of its ticks. -/
theorem exists_course_of_turns (hhandler : ∀ n, Forward (handler n)) {fuel : Nat} {x₀ : Checkpoint ρ η}
    {report : LoopReport} {c : SystemHandle × η} {w : World ρ}
    (h : l.goesOn handler fuel x₀ = (.done report, c, w)) {n : Nat} (hn : x₀.report.ticks + n < report.ticks) :
    ∃ x start duration, Course l handler x₀ n x start duration := by
  induction fuel generalizing x₀ n with
  | zero => cases h
  | succ fuel ih =>
    obtain ⟨due, before, s, v⟩ := x₀
    rw [goesOn, turns_succ] at h
    have hsays := l.turn_says none before.ticks due v.now
    cases hturn : l.turn none before.ticks due v.now with
    | limit =>
      rw [hturn] at h
      cases h
      exact absurd hn (by simp)
    | shutdown moment =>
      rw [hturn] at hsays
      obtain ⟨m, ⟨⟩, -⟩ := hsays
    | tick moment =>
      rw [hturn] at h hsays
      obtain ⟨failed, d, u, htick, hrest⟩ := Action.done_of_bind h
      cases n with
      | zero =>
        exact ⟨fun _ => ⟨due, before, s, v⟩, fun _ => moment, fun _ => 0, rfl,
          fun _ hk => absurd hk (Nat.not_lt_zero _), hturn⟩
      | succ n =>
        have hbegin : (v.advanceTo moment).now = moment := by
          have hmoment := hsays.1
          simp only [World.advanceTo]
          omega
        have hforward : moment ≤ u.now := by
          have hle := forward_tick hhandler before.ticks s (v.advanceTo moment)
          rwa [htick, hbegin] at hle
        obtain ⟨y, hy⟩ : ∃ y : Checkpoint ρ η, y = ⟨Ticker.next l.interval due moment,
            ⟨before.ticks + 1, before.failedRefreshes + if failed then 1 else 0⟩, d, u⟩ := ⟨_, rfl⟩
        have hleads : Leads l handler ⟨due, before, s, v⟩ y moment (u.now - moment) := by
          subst hy
          exact ⟨hturn, ⟨failed, htick, rfl⟩, rfl, by simp only; omega⟩
        have hgoesOn : l.goesOn handler fuel y = (.done report, c, w) := by
          subst hy
          exact hrest
        have hbefore : y.report.ticks + n < report.ticks := by
          subst hy
          simp only at hn ⊢
          omega
        obtain ⟨x, start, duration, hcourse⟩ := ih hgoesOn hbefore
        exact ⟨_, _, _, hcourse.cons hleads⟩

/-! ## the pace -/

/-- **The ticks of a loop are paced**, whatever each of them does and however long it takes. The first begins at once;
no tick begins before the one before is done; ticks are neither bunched nor put off further than they must; and if none
takes longer than the interval, they do not drift. These are the distances for any interval up to the longest wait; one
that is longer is cut to it. Every loop that comes to an end has gone through such a course. -/
theorem ticks_paced (l : RefreshLoop) (handler : Nat → Action ρ (SystemHandle × η) ε Unit) (c : SystemHandle × η)
    (w : World ρ) :
    (∀ n x start duration, Course l handler (l.begun c w) n x start duration →
      (∀ fuel, l.goesOn handler (n + fuel) (l.begun c w) = l.goesOn handler fuel (x n)) ∧
      start 0 = w.now ∧
      Ticker.Paced (Ticker.pace l.interval) n (fun k => (x k).due) start duration ∧
      (Ticker.Delays l.interval → Ticker.Paced l.interval n (fun k => (x k).due) start duration)) ∧
    ((∀ n, Forward (handler n)) → ∀ fuel report c' w', runFor l none handler fuel c w = (.done report, c', w') →
      ∀ n < report.ticks, ∃ x start duration, Course l handler (l.begun c w) n x start duration) := by
  refine ⟨fun n x start duration h => ?_, fun hhandler fuel report c' w' h n hn => ?_⟩
  · have htimeline := h.timeline rfl
    have hfirst : (x 0).due = w.now := by rw [h.first, begun]
    refine ⟨h.goesOn (Nat.le_refl n), htimeline.first ▸ hfirst, htimeline.paced, fun hdelays => ?_⟩
    exact Ticker.delays_iff.1 hdelays ▸ htimeline.paced
  · rw [runFor_apply] at h
    obtain ⟨report', d, v, hturns, h⟩ := Action.done_of_bind h
    cases h
    have hgoesOn : l.goesOn handler fuel (l.begun c w) = (.done report, c', v) := hturns
    exact exists_course_of_turns hhandler hgoesOn (by simpa [begun] using hn)

/-- A handler that takes a nap after each refresh, a long one after the first. -/
def napping (n : Nat) : Action Script (SystemHandle × List Nat) Empty Unit := Action.sleep (if n = 0 then 25 else 3)

/-- Three ticks, the second of which is late. -/
def nappingRun : Outcome Empty LoopReport × (SystemHandle × List Nat) × World Script :=
  run (every 10 (some 3)) none napping unnoted (.start flaky)

theorem nappingRun_paced : nappingRun.1 = .done ⟨3, 2⟩ ∧ nappingRun.2.2.now = 38 ∧
    ∃ x start duration, Course (every 10 (some 3)) napping ((every 10 (some 3)).begun unnoted (.start flaky)) 2 x
      start duration ∧ start 0 = 0 ∧ Ticker.Paced 10 2 (fun k => (x k).due) start duration := by
  obtain ⟨hpaced, hends⟩ := ticks_paced (every 10 (some 3)) napping unnoted (.start flaky)
  have hrun : runFor (every 10 (some 3)) none napping 4 unnoted (.start flaky) =
      (.done ⟨3, 2⟩, nappingRun.2.1, nappingRun.2.2) := rfl
  obtain ⟨x, start, duration, hcourse⟩ :=
    hends (fun _ => Action.leaves_sleep World.onward_now _) 4 _ _ _ hrun 2 (by decide)
  obtain ⟨-, hfirst, -, hdelays⟩ := hpaced 2 x start duration hcourse
  exact ⟨rfl, rfl, x, start, duration, hcourse, hfirst, hdelays (Ticker.delays_iff.2 (by decide))⟩

end RefreshLoop

end ProcessGraph
