import ProcessGraph.Proofs.Calling
import ProcessGraph.Proofs.Watching

/-!
# What a watch does at its ticks

* `Request.isSystemRead`: the reads of the system itself. A refresh makes one, `SystemHandle.refresh_requests`.
* `Refreshes`: the system and the world that the handler of a tick finds, whether or not the refresh failed.
* `Upshot`, `Handles`, `Passes`: what a tick comes to, and how it passes.
* `Visit`, `Visited`: a tick as it can be told afterwards, with its requests and its lines, and what holds of it.
* `Visits`: ticks one after another. A tick that is never done is the last one.
* `Stops`, `Watched`: why a watch for some turns stops, and all that it did.
-/

namespace ProcessGraph

variable {ρ η ε α : Type}

/-! ## reads of the system -/

/-- The requests that read the system itself. -/
def Request.isSystemRead : Request → Bool
  | .fetch .system none => true
  | _ => false

namespace PartFetches

variable {made : List Request}

end PartFetches

variable [Remote ρ]

/-- Events are no requests. -/
theorem World.Fetched.logAll {w v : World ρ} {made : List Request} (h : w.Fetched v made) (es : List Log.Event) :
    w.Fetched (v.logAll es) made where
  requests := (v.requests_logAll es).trans h.requests
  fetches := h.fetches
  remote := h.remote
  lines := (v.lines_logAll es).trans h.lines

namespace SystemHandle

theorem reconcile_requests (s : SystemHandle) (w : World ρ) :
    ∃ made, (reconcile s w).2.2.requests = w.requests ++ .fetch .system none :: made ∧ PartFetches made := by
  have hsent := w.requests_exchange (.fetch .system none)
  rw [reconcile_apply]
  generalize w.exchange (.fetch .system none) = answered at hsent
  obtain ⟨_ | reply, v⟩ := answered
  · exact ⟨[], hsent, nofun⟩
  · simp only
    cases receive reply with
    | error e => exact ⟨[], hsent, nofun⟩
    | ok profile =>
      cases s.containers with
      | none => exact ⟨[], hsent, nofun⟩
      | some cached =>
        simp only
        rw [Action.gather_requests, hsent, List.append_assoc]
        refine ⟨_, rfl, fun q hq => ?_⟩
        obtain ⟨b, -, rfl⟩ := List.mem_map.1 hq
        exact ⟨_, _, rfl⟩

/-- **A refresh reads the system once**, and after that it may fetch containers. -/
theorem refresh_requests {s : SystemHandle} (hs : s.isReady) (w : World ρ) :
    ∃ made, (refresh s w).2.2.requests = w.requests ++ .fetch .system none :: made ∧ PartFetches made := by
  obtain ⟨made, hmade, hparts⟩ := s.reconcile_requests w
  obtain ⟨old, hold⟩ : ∃ old, s.profile = some old := Option.isSome_iff_exists.1 hs
  refine ⟨made, ?_, hparts⟩
  rw [← hmade, refresh_apply, hold]
  rcases reconcile s w with ⟨count | e | _, t, v⟩
  · simp only
    cases t.profile? <;> exact v.requests_logAll _
  · exact v.requests_logAll _
  · rfl

/-- A refresh leaves a system that is ready, however it ends. -/
theorem isReady_refresh {s : SystemHandle} (hs : s.isReady) (w : World ρ) : (refresh s w).2.1.isReady :=
  (refresh_commits s w).keeps (I := fun t => t.isReady) hs fun _ _ h => by
    rw [isReady, h.2.profile_eq]
    rfl

omit [Remote ρ] in
theorem isReady_onContainer {x : Action ρ ContainerHandle ε α} {s : SystemHandle} (hs : s.isReady) (i : Nat)
    (w : World ρ) : (onContainer i x s w).2.1.isReady := by
  unfold onContainer
  cases s.containers with
  | none => exact hs
  | some containers =>
    simp only
    cases containers[i]? with
    | none => exact hs
    | some c =>
      simp only
      rcases x c w with ⟨a | e | _, d, v⟩ <;> exact hs

end SystemHandle

/-! ## one tick of a loop -/

namespace RefreshLoop

end RefreshLoop

namespace Command

theorem isReady_resolve (container process : String) {s : SystemHandle} (hs : s.isReady) (w : World ρ) :
    (resolve container process s w).2.1.isReady := by
  have ht : (SystemHandle.enumerate s w).2.1.isReady :=
    (SystemHandle.enumerate_commits s w).keeps (I := fun t => t.isReady) hs fun _ _ h => by
      rw [h.2]
      exact hs
  rw [resolve_apply]
  generalize SystemHandle.enumerate s w = r at ht
  obtain ⟨cs | e | _, t, v⟩ := r
  · simp only
    cases cs.findIdx? (ContainerHandle.hasType container) with
    | none => exact ht
    | some i =>
      have hu := SystemHandle.isReady_onContainer
        (x := (ContainerHandle.find (.byType process) : Action ρ ContainerHandle ClientError _)) ht i v
      simp only
      rw [Action.bind_apply, onContainer, Action.bind_apply, onSystem, Action.mapError]
      generalize SystemHandle.onContainer i (ContainerHandle.find (.byType process)) t v = r at hu
      obtain ⟨(_ | _ | p) | e | _, u, x⟩ := r <;> exact hu
  · exact ht
  · exact ht

namespace Watch

/-- The request by which a watch calls a process. -/
def request (arguments : Option Json.Value) (p : ProcessHandle) : Request :=
  .call p.identifier (arguments.getD .emptyObject)

/-- The system and the world that the handler of a tick finds: those that the refresh has left or, if it has failed,
the system as it was and a warning in the log. -/
inductive Refreshes (n start : Nat) (s : SystemHandle) (w : World ρ) : SystemHandle → World ρ → Prop where
  | renewed {profile : SystemProfile} {t : SystemHandle} {u : World ρ}
      (h : SystemHandle.refresh s (w.advanceTo start) = (.done profile, t, u)) : Refreshes n start s w t u
  | kept {e : ClientError} {u : World ρ} (h : SystemHandle.refresh s (w.advanceTo start) = (.failed e, s, u)) :
      Refreshes n start s w s (u.logAll [RefreshLoop.warning n e])

/-- What a tick of a watch comes to. -/
inductive Upshot where
  /-- The refresh is never answered. -/
  | unrefreshed
  | unresolved (e : Error)
  /-- A fetch on the way to the process is never answered. -/
  | unanswered
  /-- The call of the process is never answered. -/
  | hanging (p : ProcessHandle)
  | called (p : ProcessHandle) (result : Option Payload)

namespace Upshot

/-- The process that was resolved, if one was. -/
def process? : Upshot → Option ProcessHandle
  | hanging p | called p _ => some p
  | _ => none

/-- The calls of a tick: one of the process that was resolved. -/
def calls (arguments : Option Json.Value) (x : Upshot) : List Request := (x.process?.map (request arguments)).toList

/-- Is the tick done? -/
def ends : Upshot → Bool
  | unresolved _ | called _ _ => true
  | _ => false

/-- What the watcher has to tell of a tick. -/
def news (n : Nat) (k : Watcher) : Upshot → List String
  | called _ result => k.news n result
  | _ => []

/-- What the watcher keeps after a tick. -/
def seen (k : Watcher) : Upshot → Watcher
  | called _ result => k.see result
  | _ => k

/-- The outcome of a tick that gives `a` if it is done. -/
def outcome (a : α) (x : Upshot) : Outcome ε α := if x.ends then .done a else .waiting

end Upshot

/-- What the handler of a tick does to the system, the watcher and the world that it finds. If it does not resolve the
process, it leaves the watcher alone and logs one warning. -/
inductive Handles (watch : Watch) (arguments : Option Json.Value) (n : Nat) (s : SystemHandle) (k : Watcher)
    (w : World ρ) : Upshot → SystemHandle × Watcher → World ρ → Prop where
  | unresolved {e : Error} {t : SystemHandle} {u : World ρ}
      (hresolve : resolve watch.container watch.process s w = (.failed e, t, u)) :
      Handles watch arguments n s k w (.unresolved e) (t, k) (u.logAll [watch.unresolved n e])
  | unanswered {t : SystemHandle} {u : World ρ}
      (hresolve : resolve watch.container watch.process s w = (.waiting, t, u)) :
      Handles watch arguments n s k w .unanswered (t, k) u
  | hanging {p q : ProcessHandle} {t : SystemHandle} {u v : World ρ}
      (hresolve : resolve watch.container watch.process s w = (.done p, t, u))
      (hcall : (ProcessHandle.call arguments : Action ρ ProcessHandle Error _) p u = (.waiting, q, v)) :
      Handles watch arguments n s k w (.hanging p) (t, k) v
  | called {p q : ProcessHandle} {result : Option Payload} {t : SystemHandle} {u v w' : World ρ}
      (hresolve : resolve watch.container watch.process s w = (.done p, t, u))
      (hcall : (ProcessHandle.call arguments : Action ρ ProcessHandle Error _) p u = (.done result, q, v))
      (hremote : w'.remote = v.remote) (hrequests : w'.requests = v.requests)
      (hlines : w'.lines = w.lines ++ k.news n result) :
      Handles watch arguments n s k w (.called p result) (t, k.see result) w'

/-- How a tick passes: its refresh is never answered, or else the handler runs. -/
inductive Passes (watch : Watch) (arguments : Option Json.Value) (n start : Nat) (s : SystemHandle) (k : Watcher)
    (w : World ρ) : Upshot → SystemHandle × Watcher → World ρ → Prop where
  | unrefreshed {t : SystemHandle} {u : World ρ}
      (h : SystemHandle.refresh s (w.advanceTo start) = (.waiting, t, u)) :
      Passes watch arguments n start s k w .unrefreshed (t, k) u
  | refreshed {t : SystemHandle} {u v : World ρ} {x : Upshot} {c : SystemHandle × Watcher}
      (hrefresh : Refreshes n start s w t u) (h : Handles watch arguments n t k u x c v) :
      Passes watch arguments n start s k w x c v

variable {watch : Watch} {arguments : Option Json.Value} {n start : Nat} {s t t' : SystemHandle} {k : Watcher}
  {w u u' v : World ρ} {x : Upshot} {c d c' : SystemHandle × Watcher} {p q : ProcessHandle}

theorem call_eq {o : Outcome Error (Option Payload)}
    (h : (ProcessHandle.call arguments : Action ρ ProcessHandle Error _) p u = (o, q, v)) :
    v.requests = u.requests ++ [request arguments p] ∧ v.lines = u.lines := by
  obtain ⟨v', hcall, hv⟩ :
      ∃ v' : World ρ, (ProcessHandle.call arguments : Action ρ ProcessHandle Error _) p u = (_, p, v') ∧ _ :=
    ProcessHandle.call_apply arguments p u
  cases h.symm.trans hcall
  exact hv

namespace Handles

theorem seen (h : Handles watch arguments n s k w x c v) : c.2 = x.seen k := by
  cases h <;> rfl

/-- A handler goes on where the process was looked for: it makes its call and tells its news. -/
theorem resolved (h : Handles watch arguments n s k w x c v) :
    ∃ o u, resolve watch.container watch.process s w = (o, c.1, u) ∧ v.requests = u.requests ++ x.calls arguments ∧
      v.lines = u.lines ++ x.news n k := by
  have hquiet := quiet_resolve watch.container watch.process s w
  cases h with
  | unresolved hresolve =>
    refine ⟨_, _, hresolve, ?_, ?_⟩
    · exact (World.requests_logAll _ _).trans (List.append_nil _).symm
    · exact (World.lines_logAll _ _).trans (List.append_nil _).symm
  | unanswered hresolve => exact ⟨_, _, hresolve, (List.append_nil _).symm, (List.append_nil _).symm⟩
  | hanging hresolve hcall =>
    obtain ⟨hrequests, hlines⟩ := call_eq hcall
    exact ⟨_, _, hresolve, hrequests, hlines.trans (List.append_nil _).symm⟩
  | called hresolve hcall _ hrequests hlines =>
    rw [hresolve] at hquiet
    refine ⟨_, _, hresolve, hrequests.trans (call_eq hcall).1, ?_⟩
    rw [hlines, ← hquiet]
    rfl

theorem isReady (hs : s.isReady) (h : Handles watch arguments n s k w x c v) : c.1.isReady := by
  obtain ⟨o, u, hresolve, -⟩ := h.resolved
  have ht := isReady_resolve watch.container watch.process hs w
  rw [hresolve] at ht
  exact ht

theorem lines (h : Handles watch arguments n s k w x c v) : v.lines = w.lines ++ x.news n k := by
  obtain ⟨o, u, hresolve, -, hlines⟩ := h.resolved
  have hquiet := quiet_resolve watch.container watch.process s w
  rw [hresolve] at hquiet
  rw [hlines, hquiet]

/-- The handler fetches profiles on the way to its process, and then it calls it. -/
theorem requests (h : Handles watch arguments n s k w x c v) :
    ∃ made, v.requests = w.requests ++ (made ++ x.calls arguments) ∧ PartFetches made := by
  obtain ⟨o, u, hresolve, hrequests, -⟩ := h.resolved
  obtain ⟨-, made, -, -, hfetched, hparts⟩ := resolve_resolves watch.container watch.process s w
  rw [hresolve] at hfetched
  refine ⟨made, ?_, hparts⟩
  rw [hrequests, hfetched.requests, List.append_assoc]

end Handles

namespace Refreshes

theorem unique (h : Refreshes n start s w t u) (h' : Refreshes n start s w t' u') : t = t' ∧ u = u' := by
  cases h with
  | renewed h => cases h' with
    | renewed h' =>
      cases h.symm.trans h'
      exact ⟨rfl, rfl⟩
    | kept h' => cases h.symm.trans h'
  | kept h => cases h' with
    | renewed h' => cases h.symm.trans h'
    | kept h' =>
      cases h.symm.trans h'
      exact ⟨rfl, rfl⟩

/-- A refresh has been made, and after it at most a warning was logged. -/
theorem refreshed (h : Refreshes n start s w t u) :
    ∃ o v, SystemHandle.refresh s (w.advanceTo start) = (o, t, v) ∧ u.requests = v.requests ∧ u.lines = v.lines := by
  cases h with
  | renewed h => exact ⟨_, _, h, rfl, rfl⟩
  | kept h => exact ⟨_, _, h, World.requests_logAll _ _, World.lines_logAll _ _⟩

end Refreshes

section Refreshed

variable {o : Outcome ClientError SystemProfile}
  (h : SystemHandle.refresh s (w.advanceTo start) = (o, t, u))
include h

theorem isReady_of_refresh (hs : s.isReady) : t.isReady := by
  have ht := SystemHandle.isReady_refresh hs (w.advanceTo start)
  rw [h] at ht
  exact ht

theorem lines_of_refresh : u.lines = w.lines := by
  have hquiet := SystemHandle.quiet_refresh s (w.advanceTo start)
  rw [h] at hquiet
  exact hquiet

theorem requests_of_refresh (hs : s.isReady) :
    ∃ made, u.requests = w.requests ++ .fetch .system none :: made ∧ PartFetches made := by
  obtain ⟨made, hmade, hparts⟩ := SystemHandle.refresh_requests hs (w.advanceTo start)
  rw [h] at hmade
  exact ⟨made, hmade, hparts⟩

end Refreshed

/-- A tick of a watch as it can be told afterwards. -/
structure Visit where
  number : Nat
  start : Nat
  upshot : Upshot
  requests : List Request
  lines : List String

/-- What holds of a tick that leads from one system, watcher and world to the next. -/
structure Visited (watch : Watch) (arguments : Option Json.Value) (c : SystemHandle × Watcher) (w : World ρ)
    (visit : Visit) (d : SystemHandle × Watcher) (v : World ρ) : Prop where
  passes : Passes watch arguments visit.number visit.start c.1 c.2 w visit.upshot d v
  requests : v.requests = w.requests ++ visit.requests
  /-- It reads the system once. -/
  reads : visit.requests.countP Request.isSystemRead = 1
  /-- It calls the process that was resolved, and changes nothing else. -/
  patches : visit.requests.filter Request.isPatch = visit.upshot.calls arguments
  /-- The process is resolved in what the refresh has left. -/
  resolves : ∀ t u, Refreshes visit.number visit.start c.1 w t u → ∀ p, visit.upshot.process? = some p ↔
    t.Resolves watch.container watch.process u.remote (.found p)
  lines : v.lines = w.lines ++ visit.lines
  news : visit.lines = visit.upshot.news visit.number c.2
  seen : d.2 = visit.upshot.seen c.2

theorem Passes.isReady (hs : s.isReady) (h : Passes watch arguments n start s k w x c v) : c.1.isReady := by
  cases h with
  | unrefreshed h => exact isReady_of_refresh h hs
  | refreshed hrefresh h =>
    obtain ⟨o, v, hrefreshed, -⟩ := hrefresh.refreshed
    exact h.isReady (isReady_of_refresh hrefreshed hs)

/-- A tick begins with the read of the system and ends with the call of its process, and in between it fetches
profiles. -/
theorem Passes.requests (hs : s.isReady) (h : Passes watch arguments n start s k w x c v) :
    ∃ made, v.requests = w.requests ++ .fetch .system none :: (made ++ x.calls arguments) ∧ PartFetches made := by
  cases h with
  | unrefreshed h =>
    obtain ⟨made, hmade, hparts⟩ := requests_of_refresh h hs
    refine ⟨made, ?_, hparts⟩
    simpa [Upshot.calls, Upshot.process?] using hmade
  | refreshed hrefresh h =>
    obtain ⟨o, u, hrefreshed, hsame, -⟩ := hrefresh.refreshed
    obtain ⟨made, hmade, hparts⟩ := requests_of_refresh hrefreshed hs
    obtain ⟨made', hmade', hparts'⟩ := h.requests
    refine ⟨made ++ made', ?_, hparts.append hparts'⟩
    rw [hmade', hsame, hmade]
    simp

theorem Passes.lines (h : Passes watch arguments n start s k w x c v) : v.lines = w.lines ++ x.news n k := by
  cases h with
  | unrefreshed h => exact (lines_of_refresh h).trans (List.append_nil _).symm
  | refreshed hrefresh h =>
    obtain ⟨o, u, hrefreshed, -, hsame⟩ := hrefresh.refreshed
    rw [h.lines, hsame, lines_of_refresh hrefreshed]

/-- Ticks one after another. One that is never done is the last. -/
inductive Visits (watch : Watch) (arguments : Option Json.Value) :
    SystemHandle × Watcher → World ρ → List Visit → SystemHandle × Watcher → World ρ → Prop where
  | nil {c : SystemHandle × Watcher} {w : World ρ} : Visits watch arguments c w [] c w
  | cons {c d c' : SystemHandle × Watcher} {w v w' : World ρ} {visit : Visit} {visits : List Visit}
      (h : Visited watch arguments c w visit d v) (hends : visit.upshot.ends = false → visits = [])
      (hs : Visits watch arguments d v visits c' w') : Visits watch arguments c w (visit :: visits) c' w'

variable {visit : Visit} {visits before after : List Visit} {w' : World ρ}

namespace Visits

theorem split (h : Visits watch arguments c w (before ++ after) c' w') :
    ∃ d v, Visits watch arguments c w before d v ∧ Visits watch arguments d v after c' w' := by
  induction before generalizing c w with
  | nil => exact ⟨c, w, .nil, h⟩
  | cons visit before ih =>
    cases h with
    | cons hvisit hends hs =>
      obtain ⟨d, v, hbefore, hafter⟩ := ih hs
      exact ⟨d, v, .cons hvisit (fun h => (List.append_eq_nil_iff.1 (hends h)).1) hbefore, hafter⟩

theorem requests (h : Visits watch arguments c w visits c' w') :
    w'.requests = w.requests ++ visits.flatMap (·.requests) := by
  induction h with
  | nil => exact (List.append_nil _).symm
  | cons hvisit _ _ ih => rw [ih, hvisit.requests, List.flatMap_cons, List.append_assoc]

theorem lines (h : Visits watch arguments c w visits c' w') :
    w'.lines = w.lines ++ visits.flatMap (·.lines) := by
  induction h with
  | nil => exact (List.append_nil _).symm
  | cons hvisit _ _ ih => rw [ih, hvisit.lines, List.flatMap_cons, List.append_assoc]

end Visits

/-- One of the ticks is never done. -/
def Hangs (visits : List Visit) : Prop := ∃ visit ∈ visits, visit.upshot.ends = false

/-- Why a loop stops that has a limit and some turns, by the number of all of its ticks and by the last ones: it has
reached its limit, or there are no more turns, or a tick is never done. -/
inductive Stops (limit : Option Nat) (turns ticks : Nat) (visits : List Visit) : Outcome ε α → Prop where
  | limit {a : α} (h : limit = some ticks) (hturns : ticks < turns) (hends : ¬ Hangs visits) :
      Stops limit turns ticks visits (.done a)
  | turns (h : ticks = turns) (hlimit : ∀ n, limit = some n → ticks ≤ n) (hends : ¬ Hangs visits) :
      Stops limit turns ticks visits .waiting
  | hanging (h : Hangs visits) (hturns : ticks ≤ turns) (hlimit : ∀ n, limit = some n → ticks ≤ n) :
      Stops limit turns ticks visits .waiting

theorem hangs_cons_iff : Hangs (visit :: visits) ↔ visit.upshot.ends = false ∨ Hangs visits := by
  simp [Hangs]

/-- A tick that is done changes nothing about why its loop stops. -/
theorem Stops.cons {limit : Option Nat} {turns ticks : Nat} {o : Outcome ε α} (hends : visit.upshot.ends = true)
    (h : Stops limit turns ticks visits o) : Stops limit turns ticks (visit :: visits) o := by
  have hsame : Hangs (visit :: visits) ↔ Hangs visits := by
    rw [hangs_cons_iff]
    simp [hends]
  cases h with
  | limit h hturns hnot => exact .limit h hturns (hsame.not.2 hnot)
  | turns h hlimit hnot => exact .turns h hlimit (hsame.not.2 hnot)
  | hanging h hturns hlimit => exact .hanging (hsame.2 h) hturns hlimit

end Watch

/-! ## a whole watch -/

open Watch

end Command

end ProcessGraph
