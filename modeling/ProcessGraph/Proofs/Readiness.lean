import ProcessGraph.Proofs.Episode
import ProcessGraph.Proofs.Siblings

/-!
# Readiness and profiles

* `Latest`: the last of some elements with a property.
* `Profiled`: a kind of handle with a profile. `Profiled.Tracks`: after a run, readiness and profile are those of
  the latest success in it.
* `Profiled.Lawful.tracks`: that holds of every kind whose operations either commit to the profile that they
  were answered, or keep the one that is there. Processes, containers and systems are such.
* `profile_tracks_success`: so it is for all of them, and what was never set up refuses to work.
-/

namespace ProcessGraph

variable {ρ σ ω π α : Type}

/-! ## the latest of some elements -/

/-- The last element with a property. -/
def Latest (P : α → Prop) (xs : List α) (x : α) : Prop :=
  ∃ before later, xs = before ++ x :: later ∧ P x ∧ ∀ y ∈ later, ¬ P y

theorem latest_cons_iff {P : α → Prop} {a x : α} {xs : List α} :
    Latest P (a :: xs) x ↔ Latest P xs x ∨ x = a ∧ P a ∧ ∀ y ∈ xs, ¬ P y := by
  constructor
  · rintro ⟨before, later, heq, hx, hlater⟩
    cases before with
    | nil =>
      obtain ⟨rfl, rfl⟩ := List.cons.inj heq
      exact .inr ⟨rfl, hx, hlater⟩
    | cons b before =>
      obtain ⟨-, hxs⟩ := List.cons.inj heq
      exact .inl ⟨before, later, hxs, hx, hlater⟩
  · rintro (⟨before, later, rfl, hx, hlater⟩ | ⟨rfl, hx, hlater⟩)
    · exact ⟨a :: before, later, rfl, hx, hlater⟩
    · exact ⟨[], xs, rfl, hx, hlater⟩

open ProcessGraph.Action (Commits)

/-! ## handles with a profile -/

/-- A kind of handle with a profile: its operations, what is seen of it, and where its profile comes from. -/
structure Profiled (ω ρ σ π : Type) where
  perform : ω → Action ρ σ ClientError Unit
  isReady : σ → Bool
  profile? : σ → Except ClientError π
  setup : ω
  /-- Does an operation fetch the profile? -/
  renews : ω → Bool
  kind : Kind
  identifier : σ → Option Identifier
  ofDocument : Json.Value → Except Json.ShapeError π

namespace Profiled

variable (K : Profiled ω ρ σ π)

/-- An operation that fetches the profile, and that succeeded. -/
def Renewal (e : Episode ω ρ σ) : Prop := K.renews e.operation ∧ e.succeeded

/-- The fetch of the profile, at the start of an operation, was answered by a document of this profile. -/
def Answered [Remote ρ] (e : Episode ω ρ σ) (profile : π) : Prop :=
  ∃ document, (e.start.exchange (.fetch K.kind (K.identifier e.before))).1 = some (.ok document) ∧
    K.ofDocument document = .ok profile

/-- At the end of a run the handle is ready if it was so at the beginning or was set up since, and its profile
is that of the latest success. -/
structure Tracks [Remote ρ] (ops : List ω) (s : σ) (w : World ρ) : Prop where
  ready_iff : K.isReady (runAll K.perform ops s w).1 ↔
    K.isReady s ∨ ∃ e ∈ episodes K.perform ops s w, e.operation = K.setup ∧ e.succeeded
  profile_iff : ∀ profile, K.profile? (runAll K.perform ops s w).1 = .ok profile ↔
    (∃ e, Latest K.Renewal (episodes K.perform ops s w) e ∧ K.Answered e profile) ∨
      (∀ e ∈ episodes K.perform ops s w, ¬ K.Renewal e) ∧ K.profile? s = .ok profile

/-- What one operation does to the profile: if it fetches it, it commits to what was answered, and else it
keeps the profile. -/
structure Lawful [Remote ρ] : Prop where
  ready_iff : ∀ s, K.isReady s ↔ ∃ profile, K.profile? s = .ok profile
  renews_setup : K.renews K.setup
  /-- Only a setup makes a handle ready. -/
  ready : ∀ op s w, (Episode.of K.perform op s w).succeeded → K.renews op → op = K.setup ∨ K.isReady s
  renewed : ∀ op s w, K.renews op → Commits s (fun _ t => ∃ profile,
    K.Answered (.of K.perform op s w) profile ∧ K.profile? t = .ok profile) (K.perform op s w)
  kept : ∀ op s w, ¬ K.renews op → Commits s (fun _ t => K.profile? t = K.profile? s) (K.perform op s w)

variable {K} [Remote ρ]

theorem Answered.unique {e : Episode ω ρ σ} {p q : π} (hp : K.Answered e p) (hq : K.Answered e q) : p = q := by
  obtain ⟨d, hd, hp⟩ := hp
  obtain ⟨d', hd', hq⟩ := hq
  rw [hd] at hd'
  cases hd'
  exact Except.ok.inj (hp.symm.trans hq)

/-- The profile after an operation that renews it. -/
theorem Lawful.profile_renewed (h : K.Lawful) {op : ω} {s : σ} {w : World ρ}
    (hrenewal : K.Renewal (.of K.perform op s w)) (profile : π) :
    K.profile? (K.perform op s w).2.1 = .ok profile ↔ K.Answered (.of K.perform op s w) profile := by
  obtain ⟨p, hanswered, hp⟩ := Episode.commits_of_succeeded (h.renewed op s w hrenewal.1) hrenewal.2
  constructor
  · intro hprofile
    cases hp.symm.trans hprofile
    exact hanswered
  · intro hprofile
    rw [hp, hanswered.unique hprofile]

/-- The profile after an operation that does not. -/
theorem Lawful.profile_kept (h : K.Lawful) {op : ω} {s : σ} {w : World ρ}
    (hrenewal : ¬ K.Renewal (.of K.perform op s w)) : K.profile? (K.perform op s w).2.1 = K.profile? s := by
  by_cases hop : K.renews op
  · rw [Episode.state_eq_of_not_succeeded (h.renewed op s w hop) fun hdone => hrenewal ⟨hop, hdone⟩]
  · exact (h.kept op s w hop).keeps (I := fun t => K.profile? t = K.profile? s) rfl fun _ _ h => h

theorem Lawful.ready_step (h : K.Lawful) (op : ω) (s : σ) (w : World ρ) :
    K.isReady (K.perform op s w).2.1 ↔
      K.isReady s ∨ op = K.setup ∧ (Episode.of K.perform op s w).succeeded := by
  by_cases hrenewal : K.Renewal (.of K.perform op s w)
  · obtain ⟨profile, -, hprofile⟩ :=
      Episode.commits_of_succeeded (h.renewed op s w hrenewal.1) hrenewal.2
    refine iff_of_true ((h.ready_iff _).2 ⟨profile, hprofile⟩) ?_
    rcases h.ready op s w hrenewal.2 hrenewal.1 with hop | hready
    · exact .inr ⟨hop, hrenewal.2⟩
    · exact .inl hready
  · rw [h.ready_iff, h.ready_iff, h.profile_kept hrenewal]
    refine (or_iff_left ?_).symm
    rintro ⟨rfl, hdone⟩
    exact hrenewal ⟨h.renews_setup, hdone⟩

/-- An operation that adopts a profile puts the one in place that it was answered. -/
theorem adopt_answered {receive : Except ClientError Json.Value → List Log.Event × Except ClientError π}
    {put : π → σ → σ} (hreceive : ∀ reply profile, (receive reply).2 = .ok profile →
      ∃ document, reply = .ok document ∧ K.ofDocument document = .ok profile)
    (hput : ∀ profile s, K.profile? (put profile s) = .ok profile) (op : ω) (s : σ) (w : World ρ) :
    Commits s (fun _ t => ∃ profile, K.Answered (.of K.perform op s w) profile ∧ K.profile? t = .ok profile)
      (Action.adopt K.kind (K.identifier s) receive put s w) := by
  refine (Action.adopt_commits _ _ _ _ s w).mono fun profile t => ?_
  rintro ⟨reply, hreply, hread, rfl⟩
  obtain ⟨document, rfl, hprofile⟩ := hreceive reply profile hread
  exact ⟨profile, ⟨document, hreply, hprofile⟩, hput profile s⟩

/-- **Readiness and profile follow the successes of a run.** -/
theorem Lawful.tracks (h : K.Lawful) (ops : List ω) (s : σ) (w : World ρ) : K.Tracks ops s w := by
  induction ops generalizing s w with
  | nil => exact ⟨by simp [runAll, episodes], by simp [runAll, episodes, Latest]⟩
  | cons op ops ih =>
    obtain ⟨hready, hprofile⟩ := ih (K.perform op s w).2.1 (K.perform op s w).2.2
    refine ⟨?_, fun profile => ?_⟩
    · rw [runAll, hready, h.ready_step, episodes, List.exists_mem_cons_iff, or_assoc]
      rfl
    · rw [runAll, hprofile, episodes, List.forall_mem_cons]
      by_cases hrenewal : K.Renewal (.of K.perform op s w)
      · simp only [latest_cons_iff, h.profile_renewed hrenewal, hrenewal, not_true_eq_false, false_and,
          or_false, true_and, or_and_right, exists_or, and_assoc, exists_eq_left]
      · simp only [latest_cons_iff, h.profile_kept hrenewal, hrenewal, not_false_eq_true, true_and, false_and,
          and_false, or_false]

end Profiled

/-! ## the three kinds of handles -/

namespace ProcessHandle

/-- Processes: setups fetch their profiles. -/
def profiled [Remote ρ] : Profiled Operation ρ ProcessHandle ProcessProfile where
  perform := Operation.perform
  isReady := isReady
  profile? := profile?
  setup := .setup
  renews
    | .setup => true
    | _ => false
  kind := .process
  identifier p := some p.identifier
  ofDocument := ProcessProfile.ofDocument

theorem profile?_eq_ok_iff {p : ProcessHandle} {profile : ProcessProfile} :
    p.profile? = .ok profile ↔ p.profile = some profile := by
  unfold profile?
  cases p.profile <;> simp

theorem profiled_lawful [Remote ρ] : (profiled : Profiled Operation ρ ProcessHandle ProcessProfile).Lawful where
  ready_iff p := by simp [profiled, isReady, profile?_eq_ok_iff, Option.isSome_iff_exists]
  renews_setup := rfl
  ready op p w _ hop := by
    cases op with
    | setup => exact .inl rfl
    | _ => cases hop
  renewed op p w hop := by
    cases op with
    | setup =>
      refine .withValue ?_
      exact profiled.adopt_answered (fun _ _ => receive_eq_ok_iff.1) (fun _ _ => rfl) _ p w
    | _ => cases hop
  kept op p w hop := by
    refine (Operation.perform_keeps ?_ p w).mono fun _ q h => h ▸ rfl
    rintro rfl
    exact hop rfl

end ProcessHandle

namespace ContainerHandle

/-- Containers: setups fetch their profiles. -/
def profiled [Remote ρ] : Profiled Operation ρ ContainerHandle ContainerProfile where
  perform := Operation.perform
  isReady := isReady
  profile? := profile?
  setup := .setup
  renews
    | .setup => true
    | _ => false
  kind := .container
  identifier c := some c.identifier
  ofDocument := ContainerProfile.ofDocument

/-- A look at a container does not touch its profile. -/
theorem Looked.profile?_eq [Remote ρ] {c d : ContainerHandle} (h : Looked ρ c d) :
    d.profile? = c.profile? := by
  cases h <;> rfl

theorem profiled_lawful [Remote ρ] :
    (profiled : Profiled Operation ρ ContainerHandle ContainerProfile).Lawful where
  ready_iff c := by simp [profiled, isReady, profile?_eq_ok_iff, Option.isSome_iff_exists]
  renews_setup := rfl
  ready op c w _ hop := by
    cases op with
    | setup => exact .inl rfl
    | _ => cases hop
  renewed op c w hop := by
    cases op with
    | setup =>
      refine .withValue ?_
      exact profiled.adopt_answered (fun _ _ => receive_eq_ok_iff.1) (fun _ _ => rfl) _ c w
    | _ => cases hop
  kept op c w hop := by
    have hsetup : op ≠ .setup := by
      rintro rfl
      exact hop rfl
    exact (Operation.perform_looked hsetup c w).mono fun _ _ h => h.profile?_eq

end ContainerHandle

namespace SystemHandle

/-- Systems: setups and refreshes fetch their profiles. -/
def profiled [Remote ρ] : Profiled Operation ρ SystemHandle SystemProfile where
  perform := Operation.perform
  isReady := isReady
  profile? := profile?
  setup := .setup
  renews
    | .setup | .refresh => true
    | _ => false
  kind := .system
  identifier _ := none
  ofDocument := SystemProfile.ofDocument

theorem reconcile_answered [Remote ρ] (s : SystemHandle) (w : World ρ) :
    Commits s (fun _ t => ∃ profile, profiled.Answered (.of Operation.perform .refresh s w) profile ∧
      t.profile? = .ok profile) (reconcile s w) := by
  rw [reconcile_apply]
  rcases hsent : w.exchange (.fetch .system none) with ⟨_ | reply, v⟩
  · exact .waiting v
  · simp only
    cases hreceive : receive reply with
    | error e => exact .failed e v
    | ok profile =>
      obtain ⟨document, rfl, hprofile⟩ := receive_eq_ok_iff.1 hreceive
      have hanswered : profiled.Answered (.of Operation.perform .refresh s w) profile :=
        ⟨document, congrArg Prod.fst hsent, hprofile⟩
      cases s.containers with
      | none => exact .done ⟨profile, hanswered, rfl⟩
      | some cached =>
        refine (Action.gather_commits _ _ _ s v).mono fun _ t => ?_
        rintro ⟨fresh, -, rfl⟩
        exact ⟨profile, hanswered, rfl⟩

theorem refresh_answered [Remote ρ] (s : SystemHandle) (w : World ρ) :
    Commits s (fun _ t => ∃ profile, profiled.Answered (.of Operation.perform .refresh s w) profile ∧
      t.profile? = .ok profile) (Operation.refresh.perform s w) :=
  .withValue (refresh_commits_of_reconcile (reconcile_answered s w))

/-- A look at a system does not touch its profile. -/
theorem Looked.profile?_eq [Remote ρ] {s t : SystemHandle} (h : Looked ρ s t) : t.profile? = s.profile? := by
  cases h <;> rfl

/-- Only a setup or a refresh changes the profile of a system. -/
theorem Operation.perform_keeps [Remote ρ] {op : Operation} (hsetup : op ≠ .setup) (hrefresh : op ≠ .refresh)
    (s : SystemHandle) (w : World ρ) : Commits s (fun _ t => t.profile? = s.profile?) (op.perform s w) := by
  cases op with
  | setup => exact absurd rfl hsetup
  | refresh => exact absurd rfl hrefresh
  | onContainer i op =>
    refine .withValue ((onContainer_commits (fun c w => op.perform_commits c w) s w).mono fun _ t => ?_)
    rintro (rfl | ⟨cs, c, d, _, -, -, -, -, rfl⟩)
    · rfl
    · rfl
  | _ => exact (perform_looked rfl s w).mono fun _ _ h => h.profile?_eq

theorem profiled_lawful [Remote ρ] : (profiled : Profiled Operation ρ SystemHandle SystemProfile).Lawful where
  ready_iff s := by simp [profiled, isReady, profile?_eq_ok_iff, Option.isSome_iff_exists]
  renews_setup := rfl
  ready op s w hdone hop := by
    cases op with
    | setup => exact .inl rfl
    | refresh =>
      obtain ⟨_ | old, containers⟩ := s
      · cases hdone
      · exact .inr rfl
    | _ => cases hop
  renewed op s w hop := by
    cases op with
    | setup =>
      refine .withValue ?_
      rw [setup_eq]
      exact profiled.adopt_answered (fun _ _ => receive_eq_ok_iff.1) (fun _ _ => rfl) _ s w
    | refresh => exact refresh_answered s w
    | _ => cases hop
  kept op s w hop := by
    have hsetup : op ≠ .setup := by
      rintro rfl
      exact hop rfl
    have hrefresh : op ≠ .refresh := by
      rintro rfl
      exact hop rfl
    exact Operation.perform_keeps hsetup hrefresh s w

end SystemHandle

/-! ## handles that are not ready -/

/-- In every world an action refuses to work on a handle that was not set up. It makes no request, logs nothing
and changes nothing. -/
def Refuses (x : Action ρ σ ClientError α) (s : σ) (what : String) : Prop :=
  ∀ w, x s w = (.failed (.uninitialized what), s, w)

/-- A process that was not set up has nothing to tell. -/
structure ProcessHandle.Uninitialized (p : ProcessHandle) : Prop where
  profile : p.profile? = .error (.uninitialized ("container process '" ++ p.identifier.text ++ "'"))
  typeName : p.typeName? = .error (.uninitialized ("container process '" ++ p.identifier.text ++ "'"))

theorem ProcessHandle.isReady_or_uninitialized (p : ProcessHandle) : p.isReady ∨ p.Uninitialized := by
  obtain ⟨id, _ | profile⟩ := p
  · exact .inr ⟨rfl, rfl⟩
  · exact .inl rfl

/-- A container that was not set up has nothing to tell and no processes. -/
structure ContainerHandle.Uninitialized (ρ : Type) [Remote ρ] (c : ContainerHandle) : Prop where
  profile : c.profile? = .error (.uninitialized ("container '" ++ c.identifier.text ++ "'"))
  typeName : c.typeName? = .error (.uninitialized ("container '" ++ c.identifier.text ++ "'"))
  processes : Refuses (enumerate (ρ := ρ)) c ("container '" ++ c.identifier.text ++ "'")
  process : ∀ name, Refuses (find (ρ := ρ) (.byType name)) c ("container '" ++ c.identifier.text ++ "'")
  processesByType : ∀ name, Refuses (findAll (ρ := ρ) name) c ("container '" ++ c.identifier.text ++ "'")

theorem ContainerHandle.Faithful.isReady_or_uninitialized [Remote ρ] {c : ContainerHandle} (h : c.Faithful ρ) :
    c.isReady ∨ c.Uninitialized ρ := by
  obtain ⟨id, _ | profile, _ | ps⟩ := c
  · exact .inr ⟨rfl, rfl, fun _ => rfl, fun _ _ => rfl, fun _ _ => rfl⟩
  · obtain ⟨_, hprofile, -⟩ := h.listed ps rfl
    cases hprofile
  · exact .inl rfl
  · exact .inl rfl

/-- A system that was not set up has nothing to tell, no containers, and nothing to refresh. -/
structure SystemHandle.Uninitialized (ρ : Type) [Remote ρ] (s : SystemHandle) : Prop where
  profile : s.profile? = .error (.uninitialized "system")
  containerIds : s.containerIds? = .error (.uninitialized "system")
  containers : Refuses (enumerate (ρ := ρ)) s "system"
  container : ∀ name, Refuses (find (ρ := ρ) (.byType name)) s "system"
  containersByType : ∀ name, Refuses (findAll (ρ := ρ) name) s "system"
  refresh : Refuses (SystemHandle.refresh (ρ := ρ)) s "system"

theorem SystemHandle.Faithful.isReady_or_uninitialized [Remote ρ] {s : SystemHandle} (h : s.Faithful ρ) :
    s.isReady ∨ s.Uninitialized ρ := by
  obtain ⟨_ | profile, _ | cs⟩ := s
  · exact .inr ⟨rfl, rfl, fun _ => rfl, fun _ _ => rfl, fun _ _ => rfl, fun _ => rfl⟩
  · obtain ⟨_, hprofile, -⟩ := h.listed cs rfl
    cases hprofile
  · exact .inl rfl
  · exact .inl rfl

/-- **Readiness and profile track the latest success.** After every run of operations on a system, a container or
a process, whatever failed in it: the handle is ready if it was set up, its profile is that of the document
which was answered to the latest success, and if it is not ready, it refuses to work. -/
theorem profile_tracks_success [Remote ρ] (w : World ρ) :
    (∀ ops s, SystemHandle.profiled.Tracks ops s w) ∧
    (∀ ops c, ContainerHandle.profiled.Tracks ops c w) ∧
    (∀ ops p, ProcessHandle.profiled.Tracks ops p w) ∧
    (∀ ops, (SystemHandle.run ops .new w).1.isReady ∨ (SystemHandle.run ops .new w).1.Uninitialized ρ) ∧
    (∀ ops id, (runAll ContainerHandle.Operation.perform ops (.new id) w).1.isReady ∨
      (runAll ContainerHandle.Operation.perform ops (.new id) w).1.Uninitialized ρ) ∧
    (∀ ops id, (runAll ProcessHandle.Operation.perform ops (.new id) w).1.isReady ∨
      (runAll ProcessHandle.Operation.perform ops (.new id) w).1.Uninitialized) := by
  refine ⟨fun ops s => ?_, fun ops c => ?_, fun ops p => ?_, fun ops => ?_, fun ops id => ?_, fun ops id => ?_⟩
  · exact SystemHandle.profiled_lawful.tracks ops s w
  · exact ContainerHandle.profiled_lawful.tracks ops c w
  · exact ProcessHandle.profiled_lawful.tracks ops p w
  · exact (SystemHandle.run_new_faithful ops w).isReady_or_uninitialized
  · exact (ContainerHandle.runAll_new_faithful ops id w).isReady_or_uninitialized
  · exact ProcessHandle.isReady_or_uninitialized _

end ProcessGraph
