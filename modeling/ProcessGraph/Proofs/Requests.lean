import ProcessGraph.Proofs.Handles

/-!
# The requests that operations make

* `FanOut.started`, `FanOut.fanOut_requests`: a fan-out makes the requests of the branches that it starts,
  in their order. A branch that fails at once is the last of them.
* `Action.adopt`, `Action.gather`, `Action.remember`: what the setups, the fan-outs and the enumerations have in
  common. Each of them is one of these, so that a law of these is a law of all handles.
* `SystemHandle.reconcile_apply`, `SystemHandle.refresh_apply`: a refresh from one answer to the next.
-/

namespace ProcessGraph

variable {ρ σ α β π : Type}

/-! ## worlds -/

namespace World

@[simp] theorem requests_logAll (w : World ρ) (es : List Log.Event) :
    (w.logAll es).requests = w.requests := by
  simp [requests, logAll, List.filterMap_append, List.filterMap_map]

@[simp] theorem requests_advanceTo (w : World ρ) (moment : Nat) :
    (w.advanceTo moment).requests = w.requests := rfl

theorem requests_mk (w : World ρ) (remote : ρ) (r : Request) :
    (⟨remote, w.now, w.history ++ [.request r]⟩ : World ρ).requests = w.requests ++ [r] := by
  simp [requests]

theorem requests_send [Remote ρ] (w : World ρ) (r : Request) :
    (w.send r).2.requests = w.requests ++ [r] := requests_mk w _ r

theorem requests_exchange [Remote ρ] (w : World ρ) (r : Request) :
    (w.exchange r).2.requests = w.requests ++ [r] := by
  have h := requests_send w r
  unfold exchange
  generalize w.send r = sent at h
  obtain ⟨_ | a, v⟩ := sent
  · exact h
  · simpa using h

end World

/-! ## fan-outs -/

/-- The request of a branch. -/
def Branch.request (b : Branch α) : Request := .fetch b.kind (some b.identifier)

namespace FanOut

/-- How many branches start, if these returns come back to them: those up to the first that fails at once. -/
def started : List (Returned α) → Nat
  | [] => 0
  | r :: rs => if (errorAtOnce? r).isSome then 1 else started rs + 1

theorem started_le (rs : List (Returned α)) : started rs ≤ rs.length := by
  induction rs with
  | nil => exact Nat.le_refl 0
  | cons r rs ih =>
    rw [started, List.length_cons]
    split <;> omega

theorem started_eq_length {rs : List (Returned α)} (h : rs.findSome? errorAtOnce? = none) :
    started rs = rs.length := by
  induction rs with
  | nil => rfl
  | cons r rs ih =>
    rw [List.findSome?_cons] at h
    cases hr : errorAtOnce? r with
    | some e => simp [hr] at h
    | none =>
      rw [hr] at h
      simp [started, hr, ih h]

/-- The error that keeps the later branches from starting is that of a branch that has started. -/
theorem error_mem_take_started {rs : List (Returned α)} {e : ClientError}
    (h : rs.findSome? errorAtOnce? = some e) : some (.error e) ∈ (rs.take (started rs)).map result? := by
  induction rs with
  | nil => cases h
  | cons r rs ih =>
    rw [List.findSome?_cons] at h
    cases hr : errorAtOnce? r with
    | some e' =>
      have hmem : [r].findSome? errorAtOnce? = some e := by simpa [hr] using h
      simpa [started, hr] using error_mem_of_atOnce hmem
    | none =>
      rw [hr] at h
      simp only [started, hr, Option.isSome_none, Bool.false_eq_true, if_false, List.take_succ_cons,
        List.map_cons]
      exact List.mem_cons_of_mem _ (ih h)

theorem started_eq_of_verdict {rs : List (Returned α)} (h : ∀ e, verdict rs ≠ .failed e) :
    started rs = rs.length := by
  refine started_eq_length ?_
  cases hnow : rs.findSome? errorAtOnce? with
  | none => rfl
  | some e => exact absurd (by rw [verdict, hnow]) (h e)

/-- The error of a fan-out is that of a branch that has started. -/
theorem error_mem_take_started_of_verdict {rs : List (Returned α)} {e : ClientError}
    (h : verdict rs = .failed e) : some (.error e) ∈ (rs.take (started rs)).map result? := by
  cases hnow : rs.findSome? errorAtOnce? with
  | some e' =>
    rw [verdict, hnow] at h
    cases h
    exact error_mem_take_started hnow
  | none =>
    rw [started_eq_length hnow, List.take_length]
    exact error_mem_of_verdict h

/-- The world after a branch has been put in front of the launch of the others. -/
theorem Slot.before_snd (slot : Slot α) (launched : Except ClientError (List (Slot α)) × World ρ) :
    (slot.before launched).2 = launched.2 := by
  obtain ⟨_ | _, w⟩ := launched <;> rfl

theorem launch_requests [Remote ρ] (bs : List (Branch α)) (w : World ρ) :
    (launch bs w).2.requests =
      w.requests ++ (bs.take (started (returns bs w.remote))).map Branch.request := by
  induction bs generalizing w with
  | nil => simp [launch]
  | cons b rest ih =>
    unfold launch returns World.send
    rcases Remote.answer w.remote (.fetch b.kind (some b.identifier)) with ⟨_ | a, r⟩
    · rw [Slot.before_snd, ih, World.requests_mk]
      simp [started, errorAtOnce?, Branch.request]
    · rcases hx : b.finish a.reply with ⟨es, x⟩
      simp only [Option.map_some, hx]
      split
      next h0 =>
        rw [h0]
        cases x with
        | error e =>
          rw [World.requests_logAll, World.requests_mk]
          simp [started, errorAtOnce?, error?, Branch.request]
        | ok x =>
          simp only
          rw [Slot.before_snd, ih, World.requests_logAll, World.requests_mk]
          simp [started, errorAtOnce?, error?, Branch.request, World.logAll]
      next h0 =>
        obtain ⟨n, hn⟩ := Nat.exists_eq_succ_of_ne_zero h0
        rw [hn, Slot.before_snd, ih, World.requests_mk]
        simp [started, errorAtOnce?, Branch.request]

theorem settle_requests (ps : List (Pending α)) (w : World ρ) : (settle ps w).2.requests = w.requests := by
  induction ps generalizing w with
  | nil => rfl
  | cons p rest ih =>
    unfold settle
    cases p.result with
    | error e => simp
    | ok x => simp [ih]

/-- **A fan-out makes the requests of the branches that it starts**, in their order. -/
theorem fanOut_requests {σ : Type} [Remote ρ] (bs : List (Branch α)) (s : σ) (w : World ρ) :
    (Action.fanOut bs s w).2.2.requests =
      w.requests ++ (bs.take (started (returns bs w.remote))).map Branch.request := by
  rw [← launch_requests]
  unfold Action.fanOut
  rcases launch bs w with ⟨e | slots, v⟩
  · rfl
  · simp only
    rw [← settle_requests (arrivals slots) v]
    rcases settle (arrivals slots) v with ⟨_ | e, u⟩
    · simp only
      cases slots.mapM Slot.value? <;> rfl
    · rfl

theorem length_returns [Remote ρ] (bs : List (Branch α)) (r : ρ) : (returns bs r).length = bs.length := by
  induction bs generalizing r with
  | nil => rfl
  | cons b rest ih => simp [returns, ih]

/-- Unless it fails, a fan-out makes the requests of all its branches. -/
theorem fanOut_requests_of_verdict [Remote ρ] (bs : List (Branch α)) (s : σ) (w : World ρ)
    (h : ∀ e, verdict (returns bs w.remote) ≠ .failed e) :
    (Action.fanOut bs s w).2.2.requests = w.requests ++ bs.map Branch.request := by
  rw [fanOut_requests, started_eq_of_verdict h, length_returns, List.take_length]

end FanOut

/-! ## what the operations have in common -/

namespace Action

/-- Fetches a profile and, once it is received, puts it in its place. -/
def adopt [Remote ρ] (kind : Kind) (id : Option Identifier)
    (receive : Except ClientError Json.Value → List Log.Event × Except ClientError π)
    (put : π → σ → σ) : Action ρ σ ClientError π := do
  let reply ← ask (.fetch kind id)
  logAll (receive reply).1
  let profile ← ofExcept (receive reply).2
  update (put profile)
  return profile

theorem adopt_apply [Remote ρ] (kind : Kind) (id : Option Identifier)
    (receive : Except ClientError Json.Value → List Log.Event × Except ClientError π)
    (put : π → σ → σ) (s : σ) (w : World ρ) :
    adopt kind id receive put s w = match w.exchange (.fetch kind id) with
      | (none, v) => (.waiting, s, v)
      | (some reply, v) => match (receive reply).2 with
        | .ok profile => (.done profile, put profile s, v.logAll (receive reply).1)
        | .error e => (.failed e, s, v.logAll (receive reply).1) := by
  rw [adopt, bind_apply, ask_apply]
  rcases w.exchange (.fetch kind id) with ⟨_ | reply, v⟩
  · rfl
  · cases h : (receive reply).2 with
    | ok profile => simp only [h]; rfl
    | error e => simp only [h]; rfl

theorem adopt_commits [Remote ρ] (kind : Kind) (id : Option Identifier)
    (receive : Except ClientError Json.Value → List Log.Event × Except ClientError π)
    (put : π → σ → σ) (s : σ) (w : World ρ) :
    Commits s (fun profile t => ∃ reply, (w.exchange (.fetch kind id)).1 = some reply ∧
      (receive reply).2 = .ok profile ∧ t = put profile s) (adopt kind id receive put s w) := by
  rw [adopt_apply]
  rcases w.exchange (.fetch kind id) with ⟨_ | reply, v⟩
  · exact .waiting v
  · cases hreceive : (receive reply).2 with
    | error e =>
      simp only [hreceive]
      exact .failed e _
    | ok profile =>
      simp only [hreceive]
      exact .done ⟨reply, rfl, hreceive, rfl⟩

theorem adopt_requests [Remote ρ] (kind : Kind) (id : Option Identifier)
    (receive : Except ClientError Json.Value → List Log.Event × Except ClientError π)
    (put : π → σ → σ) (s : σ) (w : World ρ) :
    (adopt kind id receive put s w).2.2.requests = w.requests ++ [.fetch kind id] := by
  rw [← World.requests_exchange, adopt_apply]
  rcases w.exchange (.fetch kind id) with ⟨_ | reply, v⟩
  · rfl
  · simp only
    cases (receive reply).2 <;> exact World.requests_logAll v _

/-- Fetches all branches at once and, once they are there, keeps what they give. -/
def gather [Remote ρ] (branches : List (Branch α)) (value : List α → β) (keep : List α → σ → σ) :
    Action ρ σ ClientError β := do
  let xs ← fanOut branches
  update (keep xs)
  return value xs

theorem gather_apply [Remote ρ] (branches : List (Branch α)) (value : List α → β) (keep : List α → σ → σ)
    (s : σ) (w : World ρ) :
    gather branches value keep s w = match fanOut branches s w with
      | (.done xs, s, w) => (.done (value xs), keep xs s, w)
      | (.failed e, s, w) => (.failed e, s, w)
      | (.waiting, s, w) => (.waiting, s, w) := by
  rw [gather, bind_apply]
  rcases fanOut branches s w with ⟨xs | e | _, t, v⟩ <;> rfl

theorem gather_commits [Remote ρ] (branches : List (Branch α)) (value : List α → β) (keep : List α → σ → σ)
    (s : σ) (w : World ρ) :
    Commits s (fun _ t => ∃ xs, List.Forall₂ (Branch.Opens ρ) branches xs ∧ t = keep xs s)
      (gather branches value keep s w) :=
  .bind (steady_fanOut branches s w) fun xs _ h => .store ⟨xs, h, rfl⟩

theorem gather_requests [Remote ρ] (branches : List (Branch α)) (value : List α → β) (keep : List α → σ → σ)
    (s : σ) (w : World ρ) :
    (gather branches value keep s w).2.2.requests = w.requests ++
      (branches.take (FanOut.started (FanOut.returns branches w.remote))).map Branch.request := by
  rw [← FanOut.fanOut_requests branches s w, gather_apply]
  rcases fanOut branches s w with ⟨xs | e | _, t, v⟩ <;> rfl

/-- Gives what is kept, or else what its siblings give, which is kept then. -/
def remember [Remote ρ] (kept : σ → Option (List α)) (siblings : σ → Except ClientError (List (Branch α)))
    (keep : List α → σ → σ) : Action ρ σ ClientError (List α) := do
  let s ← read
  match kept s with
  | some xs => return xs
  | none =>
    let branches ← ofExcept (siblings s)
    gather branches id keep

theorem remember_apply [Remote ρ] (kept : σ → Option (List α))
    (siblings : σ → Except ClientError (List (Branch α))) (keep : List α → σ → σ) (s : σ) (w : World ρ) :
    remember kept siblings keep s w = match kept s, siblings s with
      | some xs, _ => (.done xs, s, w)
      | none, .error e => (.failed e, s, w)
      | none, .ok branches => gather branches id keep s w := by
  rw [remember, bind_apply, read_apply]
  cases hkept : kept s with
  | some xs => simp only [hkept]; rfl
  | none => cases hsiblings : siblings s <;> simp only [hkept, hsiblings] <;> rfl

end Action

namespace ProcessHandle

theorem setup_apply [Remote ρ] (p : ProcessHandle) (w : World ρ) :
    setup p w = Action.adopt .process (some p.identifier) (receive p.identifier)
      (fun profile p => { p with profile := some profile }) p w := rfl

end ProcessHandle

namespace ContainerHandle

theorem setup_apply [Remote ρ] (c : ContainerHandle) (w : World ρ) :
    setup c w = Action.adopt .container (some c.identifier) (receive c.identifier)
      (fun profile c => { c with profile := some profile, processes := none }) c w := rfl

theorem enumerate_eq [Remote ρ] :
    (enumerate : Action ρ ContainerHandle ClientError (List ProcessHandle)) =
      Action.remember (·.processes) (fun c => c.profile?.map (·.processes.map ProcessHandle.opening))
        (fun ps c => { c with processes := some ps }) := by
  funext c w
  rw [enumerate, Action.remember, Action.bind_apply, Action.bind_apply, Action.read_apply]
  simp only
  cases c.processes with
  | some ps => rfl
  | none => cases c.profile? <;> rfl

end ContainerHandle

namespace SystemHandle

theorem setup_eq [Remote ρ] :
    (setup : Action ρ SystemHandle ClientError SystemProfile) =
      Action.adopt .system none
        (fun reply => ([report "system.setup" ((receive reply).map fun p => p.containers.length)],
          receive reply))
        (fun profile _ => ⟨some profile, none⟩) := rfl

theorem enumerate_eq [Remote ρ] :
    (enumerate : Action ρ SystemHandle ClientError (List ContainerHandle)) =
      Action.remember (·.containers) (fun s => s.containerIds?.map (·.map ContainerHandle.opening))
        (fun cs s => { s with containers := some cs }) := by
  funext s w
  rw [enumerate, Action.remember, Action.bind_apply, Action.bind_apply, Action.read_apply]
  simp only
  cases s.containers with
  | some cs => rfl
  | none => cases s.containerIds? <;> rfl

theorem reconcile_apply [Remote ρ] (s : SystemHandle) (w : World ρ) :
    reconcile s w = match w.exchange (.fetch .system none) with
      | (none, v) => (.waiting, s, v)
      | (some reply, v) => match receive reply, s.containers with
        | .error e, _ => (.failed e, s, v)
        | .ok profile, none => (.done profile.containers.length, { s with profile := some profile }, v)
        | .ok profile, some cached =>
          Action.gather ((added profile cached).map ContainerHandle.opening)
            (fun _ => profile.containers.length)
            (fun fresh _ => ⟨some profile, some (drain profile.containerIds (pool (cached ++ fresh)))⟩) s v := by
  obtain ⟨old, containers⟩ := s
  rw [reconcile, Action.bind_apply, Action.ask_apply]
  rcases w.exchange (.fetch .system none) with ⟨_ | reply, v⟩
  · rfl
  · simp only [Action.bind_apply]
    cases receive reply with
    | error e => rfl
    | ok profile => cases containers <;> rfl

/-- What a refresh makes of the outcome of its reconciliation. -/
theorem refresh_apply [Remote ρ] (s : SystemHandle) (w : World ρ) :
    refresh s w = match s.profile, reconcile s w with
      | none, _ => (.failed (.uninitialized "system"), s, w)
      | some _, (.done count, t, v) =>
        Action.ofExcept t.profile? t (v.logAll [report "system.refresh" (.ok count)])
      | some _, (.failed e, t, v) => (.failed e, t, v.logAll [report "system.refresh" (.error e)])
      | some _, (.waiting, t, v) => (.waiting, t, v) := by
  obtain ⟨_ | profile, containers⟩ := s
  · rfl
  · rw [refresh, Action.bind_apply, Action.read_apply]
    simp only [isReady, Option.isSome_some, ↓reduceIte, Action.bind_apply, Action.attempt_apply]
    rcases reconcile ⟨some profile, containers⟩ w with ⟨count | e | _, t, v⟩ <;> rfl

/-- A refresh commits to what its reconciliation commits to. -/
theorem refresh_commits_of_reconcile [Remote ρ] {s : SystemHandle} {w : World ρ} {P : SystemHandle → Prop}
    (h : Action.Commits s (fun _ t => P t) (reconcile s w)) :
    Action.Commits s (fun _ t => P t) (refresh s w) := by
  have h := h.and (reconcile_commits s w)
  rw [refresh_apply]
  generalize reconcile s w = r at h
  cases s.profile with
  | none => exact .failed _ w
  | some old =>
    cases h with
    | done h =>
      obtain ⟨hP, profile, -, -, hrenewed⟩ := h
      simp only [profile?_eq_ok_iff.2 hrenewed.profile_eq, Action.ofExcept_ok]
      exact .done hP
    | failed e w => exact .failed e _
    | waiting w => exact .waiting w

end SystemHandle

end ProcessGraph
