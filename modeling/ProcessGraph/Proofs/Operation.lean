import ProcessGraph.Proofs.Handles

/-!
# Runs of operations

* `ContainerHandle.Operation`, `SystemHandle.Operation`: what a client can do with a system and with the
  containers it is handed. `perform` is the operation without its value.
* `SystemHandle.run`: operations one after another, whether they succeed or not.
* `ContainerHandle.Step`, `SystemHandle.Step`: all that one operation can make of a handle.
* `ContainerHandle.Looked`, `SystemHandle.Looked`: all that the operations make of it that only look.
* `perform_commits`: an operation makes a step, or it leaves the handle as it was.
* `run_keeps`: what every step keeps holds after every run.
-/

namespace ProcessGraph

variable {ρ : Type} [Remote ρ]

open ProcessGraph.Action (Commits)

/-! ## operations on a container -/

namespace ContainerHandle

/-- An operation on a container. -/
inductive Operation where
  | setup
  | profile
  | processes
  | process (q : Query)
  | processesByType (name : String)

/-- Performs an operation and forgets its value. -/
def Operation.perform : Operation → Action ρ ContainerHandle ClientError Unit
  | setup => do
    let _ ← ContainerHandle.setup
    return ()
  | profile => do
    let c ← Action.read
    let _ ← Action.ofExcept c.profile?
    return ()
  | processes => do
    let _ ← enumerate
    return ()
  | process q => do
    let _ ← find q
    return ()
  | processesByType name => do
    let _ ← findAll name
    return ()

/-- All that one operation can make of a container. -/
inductive Step (ρ : Type) [Remote ρ] (c : ContainerHandle) : ContainerHandle → Prop where
  | same : Step ρ c c
  | setup (profile : ContainerProfile) (h : Received ρ c.identifier profile) :
      Step ρ c { c with profile := some profile, processes := none }
  | enumerate (ps : List ProcessHandle) (h : Enumerated ρ c ps) :
      Step ρ c { c with processes := some ps }

theorem Step.identifier_eq {c d : ContainerHandle} (h : Step ρ c d) : d.identifier = c.identifier := by
  cases h <;> rfl

/-- All that a look at a container can make of it. -/
inductive Looked (ρ : Type) [Remote ρ] (c : ContainerHandle) : ContainerHandle → Prop where
  | same : Looked ρ c c
  | enumerate (ps : List ProcessHandle) (h : Enumerated ρ c ps) :
      Looked ρ c { c with processes := some ps }

theorem Looked.step {c d : ContainerHandle} (h : Looked ρ c d) : Step ρ c d := by
  cases h with
  | same => exact .same
  | enumerate ps h => exact .enumerate ps h

theorem enumerate_looked (c : ContainerHandle) (w : World ρ) :
    Commits c (fun _ d => Looked ρ c d) (enumerate c w) := by
  refine (enumerate_commits c w).mono fun ps d => ?_
  rintro ⟨h, rfl⟩
  exact .enumerate ps h

theorem find_looked (q : Query) (c : ContainerHandle) (w : World ρ) :
    Commits c (fun _ d => Looked ρ c d) (find q c w) := by
  obtain ⟨_ | name⟩ := q
  · exact .done .same
  · exact (enumerate_looked c w).withValue

theorem findAll_looked (name : String) (c : ContainerHandle) (w : World ρ) :
    Commits c (fun _ d => Looked ρ c d) (findAll name c w) := by
  exact (enumerate_looked c w).withValue

/-- Every operation but a setup is a look at the container. -/
theorem Operation.perform_looked {op : Operation} (hop : op ≠ .setup) (c : ContainerHandle) (w : World ρ) :
    Commits c (fun _ d => Looked ρ c d) (op.perform c w) := by
  cases op with
  | setup => exact absurd rfl hop
  | profile =>
    refine .look (.bind (Action.steady_ofExcept c.profile? c w) fun _ w _ => ?_)
    exact .done .same
  | processes => exact (enumerate_looked c w).withValue
  | process q => exact (find_looked q c w).withValue
  | processesByType name => exact (findAll_looked name c w).withValue

/-- **An operation on a container makes a step**, or it leaves the container as it was. -/
theorem Operation.perform_commits (op : Operation) (c : ContainerHandle) (w : World ρ) :
    Commits c (fun _ d => Step ρ c d) (op.perform c w) := by
  by_cases hop : op = .setup
  · subst hop
    refine .withValue ((setup_commits c w).mono fun profile d => ?_)
    rintro ⟨h, rfl⟩
    exact .setup profile h
  · exact (perform_looked hop c w).mono fun _ _ h => h.step

end ContainerHandle

/-! ## operations on a system -/

namespace SystemHandle

/-- An operation on a system, or on the container that it was handed at a position. -/
inductive Operation where
  | setup
  | refresh
  | profile
  | containerIds
  | containers
  | container (q : Query)
  | containersByType (name : String)
  | list (kind : Kind)
  | onContainer (i : Nat) (op : ContainerHandle.Operation)

/-- Performs an operation and forgets its value. -/
def Operation.perform : Operation → Action ρ SystemHandle ClientError Unit
  | setup => do
    let _ ← SystemHandle.setup
    return ()
  | refresh => do
    let _ ← SystemHandle.refresh
    return ()
  | profile => do
    let s ← Action.read
    let _ ← Action.ofExcept s.profile?
    return ()
  | containerIds => do
    let s ← Action.read
    let _ ← Action.ofExcept s.containerIds?
    return ()
  | containers => do
    let _ ← enumerate
    return ()
  | container q => do
    let _ ← find q
    return ()
  | containersByType name => do
    let _ ← findAll name
    return ()
  | list kind => do
    let _ ← listIds kind
    return ()
  | onContainer i op => do
    let _ ← SystemHandle.onContainer i op.perform
    return ()

/-- Operations one after another, whatever becomes of each. -/
def run : List Operation → SystemHandle → World ρ → SystemHandle × World ρ
  | [], s, w => (s, w)
  | op :: ops, s, w =>
    let (_, s, w) := op.perform s w
    run ops s w

/-- All that one operation can make of a system. -/
inductive Step (ρ : Type) [Remote ρ] (s : SystemHandle) : SystemHandle → Prop where
  | same : Step ρ s s
  | setup (profile : SystemProfile) (h : Received ρ profile) : Step ρ s ⟨some profile, none⟩
  | enumerate (cs : List ContainerHandle) (h : Enumerated ρ s cs) :
      Step ρ s { s with containers := some cs }
  | refresh (profile : SystemProfile) (t : SystemHandle) (h : Received ρ profile)
      (hrenewed : Renewed ρ profile s t) : Step ρ s t
  | container (cs : List ContainerHandle) (i : Nat) (c d : ContainerHandle)
      (hcs : s.containers = some cs) (hc : cs[i]? = some c) (h : ContainerHandle.Step ρ c d) :
      Step ρ s { s with containers := some (cs.set i d) }

/-- All that a look at a system can make of it. -/
inductive Looked (ρ : Type) [Remote ρ] (s : SystemHandle) : SystemHandle → Prop where
  | same : Looked ρ s s
  | enumerate (cs : List ContainerHandle) (h : Enumerated ρ s cs) :
      Looked ρ s { s with containers := some cs }

theorem Looked.step {s t : SystemHandle} (h : Looked ρ s t) : Step ρ s t := by
  cases h with
  | same => exact .same
  | enumerate cs h => exact .enumerate cs h

theorem enumerate_looked (s : SystemHandle) (w : World ρ) :
    Commits s (fun _ t => Looked ρ s t) (enumerate s w) := by
  refine (enumerate_commits s w).mono fun cs t => ?_
  rintro ⟨h, rfl⟩
  exact .enumerate cs h

theorem enumerate_step (s : SystemHandle) (w : World ρ) :
    Commits s (fun _ t => Step ρ s t) (enumerate s w) :=
  (enumerate_looked s w).mono fun _ _ h => h.step

theorem find_looked (q : Query) (s : SystemHandle) (w : World ρ) :
    Commits s (fun _ t => Looked ρ s t) (find q s w) := by
  obtain ⟨_ | name⟩ := q
  · exact .done .same
  · exact (enumerate_looked s w).withValue

theorem findAll_looked (name : String) (s : SystemHandle) (w : World ρ) :
    Commits s (fun _ t => Looked ρ s t) (findAll name s w) := by
  exact (enumerate_looked s w).withValue

/-- Is an operation a look at the system? The others are setups, refreshes and what is done with a single
container. -/
def Operation.looks : Operation → Bool
  | setup | refresh | onContainer _ _ => false
  | _ => true

theorem Operation.perform_looked {op : Operation} (hop : op.looks) (s : SystemHandle) (w : World ρ) :
    Commits s (fun _ t => Looked ρ s t) (op.perform s w) := by
  cases op with
  | setup => cases hop
  | refresh => cases hop
  | profile =>
    refine .look (.bind (Action.steady_ofExcept s.profile? s w) fun _ w _ => ?_)
    exact .done .same
  | containerIds =>
    refine .look (.bind (Action.steady_ofExcept s.containerIds? s w) fun _ w _ => ?_)
    exact .done .same
  | containers => exact (enumerate_looked s w).withValue
  | container q => exact (find_looked q s w).withValue
  | containersByType name => exact (findAll_looked name s w).withValue
  | list kind =>
    refine .withValue (.bind (Action.steady_request (.list kind) s w) fun reply w _ => ?_)
    exact (Action.steady_ofExcept reply s w).mono fun _ _ h => h.1 ▸ .same
  | onContainer i op => cases hop

/-- **An operation makes a step**, or it leaves the system as it was. -/
theorem Operation.perform_commits (op : Operation) (s : SystemHandle) (w : World ρ) :
    Commits s (fun _ t => Step ρ s t) (op.perform s w) := by
  cases op with
  | setup =>
    refine .withValue ((setup_commits s w).mono fun profile t => ?_)
    rintro ⟨h, rfl⟩
    exact .setup profile h
  | refresh =>
    refine .withValue ((refresh_commits s w).mono fun profile t => ?_)
    rintro ⟨h, hrenewed⟩
    exact .refresh profile t h hrenewed
  | onContainer i op =>
    refine .withValue ((onContainer_commits (fun c w => op.perform_commits c w) s w).mono fun _ t => ?_)
    rintro (rfl | ⟨cs, c, d, _, hcs, hc, -, h, rfl⟩)
    · exact .same
    · exact .container cs i c d hcs hc h
  | _ => exact (perform_looked rfl s w).mono fun _ _ h => h.step

/-- **What every step keeps holds after every run.** -/
theorem run_keeps {I : SystemHandle → Prop} (hstep : ∀ s t, Step ρ s t → I s → I t) (ops : List Operation)
    {s : SystemHandle} (w : World ρ) (hs : I s) : I (run ops s w).1 := by
  induction ops generalizing s w with
  | nil => exact hs
  | cons op ops ih => exact ih _ ((op.perform_commits s w).keeps hs fun _ t h => hstep s t h hs)

end SystemHandle

end ProcessGraph
