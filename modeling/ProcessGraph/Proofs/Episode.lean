import ProcessGraph.Proofs.Coherence

/-!
# Runs and their episodes

* `ProcessHandle.Operation`: what a client can do with a process.
* `runAll`: operations on an entity one after another, whether they succeed or not. `SystemHandle.run` is one
  such run. `runAll_keeps`: what every operation keeps holds after every run.
* `Episode`: one operation of a run, with what it found and what it left; `episodes`: those of a run, in order.
* `getElem?_episodes`: each episode of a run begins where the run of the operations before it ended.
* `holds_or_undone`: what one episode established still holds at a later one, or was undone in between.
-/

namespace ProcessGraph

variable {ρ σ ω : Type}

open ProcessGraph.Action (Commits)

/-! ## operations on a process -/

namespace ProcessHandle

/-- An operation on a process. -/
inductive Operation where
  | setup
  | profile
  | call (args : Option Json.Value)
  | execute

/-- Performs an operation and forgets its value. -/
def Operation.perform [Remote ρ] : Operation → Action ρ ProcessHandle ClientError Unit
  | setup => do
    let _ ← ProcessHandle.setup
    return ()
  | profile => do
    let p ← Action.read
    let _ ← Action.ofExcept p.profile?
    return ()
  | call args => do
    let _ ← ProcessHandle.call args
    return ()
  | execute => do
    let _ ← ProcessHandle.execute
    return ()

/-- Only a setup changes a process. -/
theorem Operation.perform_keeps [Remote ρ] {op : Operation} (hop : op ≠ .setup) (p : ProcessHandle)
    (w : World ρ) : Commits p (fun _ q => q = p) (op.perform p w) := by
  cases op with
  | setup => exact absurd rfl hop
  | profile =>
    refine .look (.bind (Action.steady_ofExcept p.profile? p w) fun _ w _ => ?_)
    exact .done rfl
  | call args =>
    refine .withValue (.look (.bind (Action.steady_request _ p w) fun result w _ => ?_))
    cases result with
    | none => exact .done rfl
    | some payload => exact .done rfl
  | execute =>
    refine .withValue (.look ?_)
    exact (Action.steady_request (.execute p.identifier) p w).mono fun _ _ h => h.1

/-- **An operation on a process** sets it up anew, or it leaves the process as it was. -/
theorem Operation.perform_commits [Remote ρ] (op : Operation) (p : ProcessHandle) (w : World ρ) :
    Commits p (fun _ q => q = p ∨ ∃ profile, Received ρ p.identifier profile ∧
      q = { p with profile := some profile }) (op.perform p w) := by
  by_cases hop : op = .setup
  · rw [hop]
    exact .withValue ((setup_commits p w).mono fun profile q h => .inr ⟨profile, h⟩)
  · exact (perform_keeps hop p w).mono fun _ _ h => .inl h

end ProcessHandle

/-! ## runs -/

/-- Operations one after another, whatever becomes of each. -/
def runAll (perform : ω → Action ρ σ ClientError Unit) : List ω → σ → World ρ → σ × World ρ
  | [], s, w => (s, w)
  | op :: ops, s, w => runAll perform ops (perform op s w).2.1 (perform op s w).2.2

theorem SystemHandle.run_eq_runAll [Remote ρ] (ops : List Operation) (s : SystemHandle) (w : World ρ) :
    run ops s w = runAll Operation.perform ops s w := by
  induction ops generalizing s w with
  | nil => rfl
  | cons op ops ih => exact ih _ _

/-- **What every operation keeps holds after every run.** -/
theorem runAll_keeps {perform : ω → Action ρ σ ClientError Unit} {I : σ → Prop}
    (hstep : ∀ op s w, I s → I (perform op s w).2.1) (ops : List ω) {s : σ} (w : World ρ) (hs : I s) :
    I (runAll perform ops s w).1 := by
  induction ops generalizing s w with
  | nil => exact hs
  | cons op ops ih => exact ih _ (hstep op s w hs)

theorem ContainerHandle.runAll_new_faithful [Remote ρ] (ops : List Operation) (id : Identifier) (w : World ρ) :
    (runAll Operation.perform ops (ContainerHandle.new id) w).1.Faithful ρ := by
  refine runAll_keeps (fun op c v hc => ?_) ops w (new_faithful id)
  exact (op.perform_commits c v).keeps hc fun _ _ h => h.faithful hc

/-! ## episodes -/

/-- One operation of a run: what it found, how it ended and what it left. -/
structure Episode (ω ρ σ : Type) where
  operation : ω
  before : σ
  start : World ρ
  outcome : Outcome ClientError Unit
  after : σ
  finish : World ρ

namespace Episode

/-- An operation on an entity, in a world. -/
def of (perform : ω → Action ρ σ ClientError Unit) (op : ω) (s : σ) (w : World ρ) : Episode ω ρ σ :=
  ⟨op, s, w, (perform op s w).1, (perform op s w).2.1, (perform op s w).2.2⟩

/-- Did the operation give a value? -/
def succeeded (e : Episode ω ρ σ) : Bool :=
  match e.outcome with
  | .done _ => true
  | _ => false

variable {perform : ω → Action ρ σ ClientError Unit} {op : ω} {s : σ} {w : World ρ} {P : σ → Prop}

/-- A success has committed. -/
theorem commits_of_succeeded (h : Commits s (fun _ t => P t) (perform op s w))
    (hdone : (of perform op s w).succeeded) : P (perform op s w).2.1 := by
  unfold succeeded of at hdone
  generalize perform op s w = r at h hdone
  cases h with
  | done h => exact h
  | failed e w => cases hdone
  | waiting w => cases hdone

theorem state_eq_of_not_succeeded (h : Commits s (fun _ t => P t) (perform op s w))
    (hdone : ¬ (of perform op s w).succeeded) : (perform op s w).2.1 = s := by
  unfold succeeded of at hdone
  generalize perform op s w = r at h hdone
  cases h with
  | done h => exact absurd rfl hdone
  | failed e w => rfl
  | waiting w => rfl

end Episode

/-- The episodes of a run, in order. -/
def episodes (perform : ω → Action ρ σ ClientError Unit) : List ω → σ → World ρ → List (Episode ω ρ σ)
  | [], _, _ => []
  | op :: ops, s, w => .of perform op s w :: episodes perform ops (perform op s w).2.1 (perform op s w).2.2

variable {perform : ω → Action ρ σ ClientError Unit}

/-- **Each episode begins where the run before it ended.** -/
theorem getElem?_episodes (ops : List ω) (s : σ) (w : World ρ) (i : Nat) :
    (episodes perform ops s w)[i]? = ops[i]?.map fun op =>
      .of perform op (runAll perform (ops.take i) s w).1 (runAll perform (ops.take i) s w).2 := by
  induction ops generalizing s w i with
  | nil => rfl
  | cons op ops ih =>
    cases i with
    | zero => rfl
    | succ i => exact ih _ _ i

theorem before_eq_after {ops : List ω} {s : σ} {w : World ρ} {i : Nat} {e f : Episode ω ρ σ}
    (he : (episodes perform ops s w)[i]? = some e) (hf : (episodes perform ops s w)[i + 1]? = some f) :
    f.before = e.after := by
  induction ops generalizing s w i with
  | nil => cases he
  | cons op ops ih =>
    cases i with
    | zero =>
      obtain rfl : _ = e := Option.some.inj he
      cases ops with
      | nil => cases hf
      | cons op' ops =>
        obtain rfl : _ = f := Option.some.inj hf
        rfl
    | succ i => exact ih he hf

/-- **What one operation established lasts until it is undone.** If each operation keeps it or undoes it, then it
still holds at the beginning of a later operation, or it was undone in between. -/
theorem holds_or_undone {I : σ → Prop} {Undoes : Episode ω ρ σ → Prop}
    (hstep : ∀ op s w, I s → I (perform op s w).2.1 ∨ Undoes (.of perform op s w))
    {ops : List ω} {s : σ} {w : World ρ} {i j : Nat} {e f : Episode ω ρ σ} (hij : i < j)
    (he : (episodes perform ops s w)[i]? = some e) (hf : (episodes perform ops s w)[j]? = some f)
    (h : I e.after) :
    I f.before ∨ ∃ k g, i < k ∧ k < j ∧ (episodes perform ops s w)[k]? = some g ∧ Undoes g := by
  obtain ⟨n, rfl⟩ := Nat.exists_eq_add_of_lt hij
  induction n generalizing f with
  | zero => exact .inl (before_eq_after he hf ▸ h)
  | succ n ih =>
    obtain ⟨g, hg⟩ : ∃ g, (episodes perform ops s w)[i + n + 1]? = some g := by
      obtain ⟨hlt, -⟩ := List.getElem?_eq_some_iff.1 hf
      exact ⟨_, List.getElem?_eq_getElem (by omega)⟩
    have hafter : f.before = g.after := before_eq_after hg hf
    rcases ih (by omega) hg with hbefore | ⟨k, u, hik, hkj, hu, hundoes⟩
    · rw [getElem?_episodes] at hg
      obtain ⟨op, hop, rfl⟩ := Option.map_eq_some_iff.1 hg
      rcases hstep op _ _ hbefore with hkept | hundoes
      · exact .inl (hafter ▸ hkept)
      · refine .inr ⟨i + n + 1, _, by omega, by omega, ?_, hundoes⟩
        rw [getElem?_episodes, hop]
        rfl
    · exact .inr ⟨k, u, hik, by omega, hu, hundoes⟩

end ProcessGraph
