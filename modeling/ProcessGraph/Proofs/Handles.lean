import ProcessGraph.Proofs.FanOut
import ProcessGraph.SystemHandle

/-!
# What the operations on handles do

Each operation commits: it ends with a value and a state that are described here, or it leaves the
handle as it was.

* `ProcessHandle.setup_commits`, `ContainerHandle.setup_commits`, `SystemHandle.setup_commits`.
* `ContainerHandle.enumerate_commits`, `SystemHandle.enumerate_commits`, and the look-ups over them.
* `SystemHandle.Renewed`, `SystemHandle.refresh_commits`: what a refresh makes of a system.
-/

namespace ProcessGraph

variable {ρ : Type} [Remote ρ]

open ProcessGraph.Action (Commits)

/-! ## processes -/

namespace ProcessHandle

/-- The profile is made of a reply to the fetch of the process. -/
def Received (ρ : Type) [Remote ρ] (id : Identifier) (profile : ProcessProfile) : Prop :=
  ∃ reply, Remote.Gives ρ .process (some id) reply ∧ (receive id reply).2 = .ok profile

theorem setup_commits (p : ProcessHandle) (w : World ρ) :
    Commits p (fun profile q => Received ρ p.identifier profile ∧ q = { p with profile := some profile })
      (setup p w) := by
  refine .look (.bind (Action.steady_ask _ _ p w) fun reply w hreply => ?_)
  rcases hr : receive p.identifier reply with ⟨es, result⟩
  refine .bind (Action.steady_logAll es p w) fun _ w _ => ?_
  refine .bind (Action.steady_ofExcept result p w) fun profile w hprofile => ?_
  exact .store ⟨⟨reply, hreply, by rw [hr, hprofile]⟩, rfl⟩

/-- A process opened among others has the identifier asked for and a profile received for it. -/
theorem opening_opens {id : Identifier} {p : ProcessHandle} (h : (opening id).Opens ρ p) :
    p.identifier = id ∧ ∃ profile, p.profile = some profile ∧ Received ρ id profile := by
  obtain ⟨reply, hreply, hp⟩ := h
  simp only [opening] at hreply hp
  cases hr : (receive id reply).2 with
  | error e => rw [hr] at hp; cases hp
  | ok profile =>
    rw [hr] at hp
    cases hp
    exact ⟨rfl, profile, rfl, reply, hreply, hr⟩

end ProcessHandle

/-! ## containers -/

namespace ContainerHandle

/-- The profile is made of a reply to the fetch of the container. -/
def Received (ρ : Type) [Remote ρ] (id : Identifier) (profile : ContainerProfile) : Prop :=
  ∃ reply, Remote.Gives ρ .container (some id) reply ∧ (receive id reply).2 = .ok profile

theorem profile?_eq_ok_iff {c : ContainerHandle} {profile : ContainerProfile} :
    c.profile? = .ok profile ↔ c.profile = some profile := by
  unfold profile?
  cases c.profile <;> simp

theorem setup_commits (c : ContainerHandle) (w : World ρ) :
    Commits c (fun profile d => Received ρ c.identifier profile ∧
        d = { c with profile := some profile, processes := none })
      (setup c w) := by
  refine .look (.bind (Action.steady_ask _ _ c w) fun reply w hreply => ?_)
  rcases hr : receive c.identifier reply with ⟨es, result⟩
  refine .bind (Action.steady_logAll es c w) fun _ w _ => ?_
  refine .bind (Action.steady_ofExcept result c w) fun profile w hprofile => ?_
  exact .store ⟨⟨reply, hreply, by rw [hr, hprofile]⟩, rfl⟩

/-- A container opened among others has the identifier asked for, a profile received for it and no
processes. -/
theorem opening_opens {id : Identifier} {c : ContainerHandle} (h : (opening id).Opens ρ c) :
    ∃ profile, Received ρ id profile ∧ c = ⟨id, some profile, none⟩ := by
  obtain ⟨reply, hreply, hc⟩ := h
  simp only [opening] at hreply hc
  cases hr : (receive id reply).2 with
  | error e => rw [hr] at hc; cases hc
  | ok profile =>
    rw [hr] at hc
    cases hc
    exact ⟨profile, ⟨reply, hreply, hr⟩, rfl⟩

/-- The processes are those of a container, or they are opened for its profile. -/
inductive Enumerated (ρ : Type) [Remote ρ] (c : ContainerHandle) (ps : List ProcessHandle) : Prop where
  | kept (h : c.processes = some ps)
  | opened (profile : ContainerProfile) (hnone : c.processes = none) (hprofile : c.profile = some profile)
      (h : List.Forall₂ (Branch.Opens ρ) (profile.processes.map ProcessHandle.opening) ps)

theorem enumerate_commits (c : ContainerHandle) (w : World ρ) :
    Commits c (fun ps d => Enumerated ρ c ps ∧ d = { c with processes := some ps })
      (enumerate c w) := by
  refine .look ?_
  cases hps : c.processes with
  | some ps => exact .done ⟨.kept hps, by rw [← hps]⟩
  | none =>
    refine .bind (Action.steady_ofExcept c.profile? c w) fun profile w hprofile => ?_
    refine .bind (Action.steady_fanOut _ c w) fun ps w hopen => ?_
    exact .store ⟨.opened profile hps (profile?_eq_ok_iff.1 hprofile) hopen, rfl⟩

end ContainerHandle

/-! ## systems -/

namespace SystemHandle

/-- The profile is made of a reply to the fetch of the system. -/
def Received (ρ : Type) [Remote ρ] (profile : SystemProfile) : Prop :=
  ∃ reply, Remote.Gives ρ .system none reply ∧ receive reply = .ok profile

theorem profile?_eq_ok_iff {s : SystemHandle} {profile : SystemProfile} :
    s.profile? = .ok profile ↔ s.profile = some profile := by
  unfold profile?
  cases s.profile <;> simp

theorem containerIds?_eq_ok_iff {s : SystemHandle} {ids : List Identifier} :
    s.containerIds? = .ok ids ↔ ∃ profile, s.profile = some profile ∧ profile.containerIds = ids := by
  unfold containerIds? profile?
  cases s.profile <;> simp [Except.map]

theorem setup_commits (s : SystemHandle) (w : World ρ) :
    Commits s (fun profile t => Received ρ profile ∧ t = ⟨some profile, none⟩) (setup s w) := by
  refine .bind (Action.steady_ask _ _ s w) fun reply w hreply => ?_
  refine .bind (Action.steady_logAll _ s w) fun _ w _ => ?_
  refine .bind (Action.steady_ofExcept (receive reply) s w) fun profile w hprofile => ?_
  exact .store ⟨⟨reply, hreply, hprofile⟩, rfl⟩

/-- The containers are those of a system, or they are opened for its profile. -/
inductive Enumerated (ρ : Type) [Remote ρ] (s : SystemHandle) (cs : List ContainerHandle) : Prop where
  | kept (h : s.containers = some cs)
  | opened (profile : SystemProfile) (hnone : s.containers = none) (hprofile : s.profile = some profile)
      (h : List.Forall₂ (Branch.Opens ρ) (profile.containerIds.map ContainerHandle.opening) cs)

theorem enumerate_commits (s : SystemHandle) (w : World ρ) :
    Commits s (fun cs t => Enumerated ρ s cs ∧ t = { s with containers := some cs })
      (enumerate s w) := by
  refine .look ?_
  cases hcs : s.containers with
  | some cs => exact .done ⟨.kept hcs, by rw [← hcs]⟩
  | none =>
    refine .bind (Action.steady_ofExcept s.containerIds? s w) fun ids w hids => ?_
    refine .bind (Action.steady_fanOut _ s w) fun cs w hopen => ?_
    obtain ⟨profile, hprofile, rfl⟩ := containerIds?_eq_ok_iff.1 hids
    exact .store ⟨.opened profile hcs hprofile hopen, rfl⟩

theorem find_byType (name : String) :
    find (.byType name) = (enumerate >>= fun cs => pure (cs.findIdx? (ContainerHandle.hasType name)) :
      Action ρ SystemHandle ClientError (Option Nat)) := rfl

/-- The positions of the containers with a type name. -/
def positions (name : String) (cs : List ContainerHandle) : List Nat :=
  (List.range cs.length).filter fun i => (cs[i]?.map (ContainerHandle.hasType name)).getD false

theorem findAll_eq (name : String) :
    findAll name = (enumerate >>= fun cs => pure (positions name cs) :
      Action ρ SystemHandle ClientError (List Nat)) := rfl

/-- What a refresh to a profile makes of a system. Without enumerated containers the profile alone is
new; otherwise the missing containers are opened, and the containers of the profile are taken in its
order from the old and the new ones. -/
inductive Renewed (ρ : Type) [Remote ρ] (profile : SystemProfile) : SystemHandle → SystemHandle → Prop where
  | bare (old : Option SystemProfile) : Renewed ρ profile ⟨old, none⟩ ⟨some profile, none⟩
  | enumerated (old : Option SystemProfile) (cached fresh : List ContainerHandle)
      (h : List.Forall₂ (Branch.Opens ρ) ((added profile cached).map ContainerHandle.opening) fresh) :
      Renewed ρ profile ⟨old, some cached⟩
        ⟨some profile, some (drain profile.containerIds (pool (cached ++ fresh)))⟩

theorem Renewed.profile_eq {profile : SystemProfile} {s t : SystemHandle} (h : Renewed ρ profile s t) :
    t.profile = some profile := by
  cases h <;> rfl

theorem reconcile_commits (s : SystemHandle) (w : World ρ) :
    Commits s (fun count t => ∃ profile, Received ρ profile ∧ count = profile.containers.length ∧
        Renewed ρ profile s t)
      (reconcile s w) := by
  refine .bind (Action.steady_ask _ _ s w) fun reply w hreply => ?_
  refine .bind (Action.steady_ofExcept (receive reply) s w) fun profile w hprofile => .look ?_
  obtain ⟨old, _ | cached⟩ := s
  · exact .store ⟨profile, ⟨reply, hreply, hprofile⟩, rfl, .bare old⟩
  · refine .bind (Action.steady_fanOut _ _ w) fun fresh w hopen => ?_
    exact .store ⟨profile, ⟨reply, hreply, hprofile⟩, rfl, .enumerated old cached fresh hopen⟩

theorem refresh_commits (s : SystemHandle) (w : World ρ) :
    Commits s (fun profile t => Received ρ profile ∧ Renewed ρ profile s t) (refresh s w) := by
  refine .look ?_
  split
  · have h := reconcile_commits s w
    rw [Action.bind_apply, Action.attempt_apply]
    generalize reconcile s w = r at h
    cases h with
    | done h =>
      obtain ⟨profile, hreceived, -, hrenewed⟩ := h
      have hprofile := profile?_eq_ok_iff.2 hrenewed.profile_eq
      simp only [Action.bind_apply, Action.log_apply, Action.ofExcept_ok, Action.read_apply, hprofile]
      exact .done ⟨hreceived, hrenewed⟩
    | failed e w => exact .failed e _
    | waiting w => exact .waiting w
  · exact .failed _ w

omit [Remote ρ] in
/-- An action on one container of a system is seen in that container alone. -/
theorem onContainer_commits {α : Type} {i : Nat} {x : Action ρ ContainerHandle ClientError α}
    {P : ContainerHandle → α → ContainerHandle → Prop} (hx : ∀ c w, Commits c (P c) (x c w))
    (s : SystemHandle) (w : World ρ) :
    Commits s (fun a t => t = s ∨ ∃ cs c d b, s.containers = some cs ∧ cs[i]? = some c ∧ a = some b ∧
        P c b d ∧ t = { s with containers := some (cs.set i d) })
      (onContainer i x s w) := by
  unfold onContainer
  cases hcs : s.containers with
  | none => exact .done (.inl rfl)
  | some cs =>
    cases hc : cs[i]? with
    | none =>
      simp only [hc]
      exact .done (.inl rfl)
    | some c =>
      -- an action that fails hands back the very container
      have hset : { s with containers := some (cs.set i c) } = s := by
        obtain ⟨hi, rfl⟩ := List.getElem?_eq_some_iff.1 hc
        rw [List.set_getElem_self, ← hcs]
      have h := hx c w
      simp only [hc]
      generalize x c w = r at h
      cases h with
      | done h => exact .done (.inr ⟨cs, c, _, _, rfl, hc, rfl, h, rfl⟩)
      | failed e w =>
        simp only [hset]
        exact .failed e w
      | waiting w =>
        simp only [hset]
        exact .waiting w

end SystemHandle

end ProcessGraph
