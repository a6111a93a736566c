import ProcessGraph.Proofs.Operation

/-!
# Coherence

Caches and profiles fit together after every run.

* `Listed`: the entities of some identifiers, in their order, each with a property.
* `listed_renewed`: the containers after a refresh are those that the new profile lists, whether they were
  kept or opened.
* `Faithful`: every profile was received for its entity, and every cache lists what its profile declares.
  Each step keeps this.
* `SystemHandle.Coherent`: the part of it that can be seen in the system itself.
* `SystemHandle.run_new_coherent`: a new system is coherent after every run.
-/

namespace ProcessGraph

variable {ρ : Type} [Remote ρ]

/-! ## entities by identifier -/

/-- The entities of some identifiers, in their order, each with a property. -/
def Listed {α : Type} (identifier : α → Identifier) (Q : α → Prop) (ids : List Identifier)
    (xs : List α) : Prop :=
  xs.map identifier = ids ∧ ∀ x ∈ xs, Q x

theorem Listed.set {α : Type} {identifier : α → Identifier} {Q : α → Prop} {ids : List Identifier}
    {xs : List α} (h : Listed identifier Q ids xs) {i : Nat} {x y : α} (hx : xs[i]? = some x)
    (hid : identifier y = identifier x) (hy : Q y) : Listed identifier Q ids (xs.set i y) := by
  obtain ⟨hi, rfl⟩ := List.getElem?_eq_some_iff.1 hx
  refine ⟨?_, fun z hz => ?_⟩
  · rw [List.map_set, hid, ← List.getElem_map identifier (h := by simpa using hi), List.set_getElem_self]
    exact h.1
  · rcases List.mem_or_eq_of_mem_set hz with hz | rfl
    · exact h.2 z hz
    · exact hy

/-- What a fan-out opens are the entities of its branches. -/
theorem listed_of_opens {α : Type} {opening : Identifier → Branch α} {identifier : α → Identifier}
    {Q : α → Prop} (hopen : ∀ id x, (opening id).Opens ρ x → identifier x = id ∧ Q x)
    {ids : List Identifier} {xs : List α} (h : List.Forall₂ (Branch.Opens ρ) (ids.map opening) xs) :
    Listed identifier Q ids xs := by
  induction ids generalizing xs with
  | nil =>
    cases h
    exact ⟨rfl, by simp⟩
  | cons id rest ih =>
    cases h with
    | cons hx hxs =>
      obtain ⟨hid, hQ⟩ := hopen _ _ hx
      obtain ⟨hids, hall⟩ := ih hxs
      exact ⟨by rw [List.map_cons, hid, hids], List.forall_mem_cons.2 ⟨hQ, hall⟩⟩

/-! ## the containers after a refresh -/

namespace SystemHandle

theorem listed_drain {Q : ContainerHandle → Prop} {ids : List Identifier}
    {pool : Keyed Identifier ContainerHandle} (hnodup : ids.Nodup)
    (h : ∀ id ∈ ids, ∃ c, Keyed.find? id pool = some c ∧ c.identifier = id ∧ Q c) :
    Listed ContainerHandle.identifier Q ids (drain ids pool) := by
  induction ids generalizing pool with
  | nil => exact ⟨rfl, by simp [drain]⟩
  | cons id rest ih =>
    obtain ⟨hid, hrest⟩ := List.nodup_cons.1 hnodup
    obtain ⟨c, hfind, hc, hQ⟩ := h id List.mem_cons_self
    -- no later identifier asks for the container that is taken out here
    have hpool : ∀ id' ∈ rest, ∃ c, Keyed.find? id' (Keyed.erase id pool) = some c ∧
        c.identifier = id' ∧ Q c := by
      intro id' hid'
      have hne : id' ≠ id := by
        rintro rfl
        exact hid hid'
      rw [Keyed.find?_erase_of_ne hne]
      exact h id' (List.mem_cons_of_mem _ hid')
    obtain ⟨hids, hall⟩ := ih hrest hpool
    rw [drain, hfind]
    exact ⟨by rw [List.map_cons, hc, hids], List.forall_mem_cons.2 ⟨hQ, hall⟩⟩

theorem find?_pool {cs : List ContainerHandle} {id : Identifier} (h : id ∈ cs.map (·.identifier)) :
    ∃ c ∈ cs, Keyed.find? id (pool cs) = some c ∧ c.identifier = id := by
  obtain ⟨c, hfind⟩ : ∃ c, Keyed.find? id (pool cs) = some c :=
    Keyed.exists_find?_ofPairs (by simpa using h)
  obtain ⟨d, hd, heq⟩ := List.mem_map.1 (Keyed.mem_of_find?_ofPairs hfind)
  obtain ⟨hid, rfl⟩ := Prod.mk.inj heq
  exact ⟨d, hd, hfind, hid⟩

theorem mem_added_iff {profile : SystemProfile} {cached : List ContainerHandle} {id : Identifier} :
    id ∈ added profile cached ↔ id ∈ profile.containerIds ∧ id ∉ cached.map (·.identifier) := by
  simp [added]

/-- **The containers after a refresh** are those that the new profile lists, in its order: none is lost,
none comes twice, and none is left over. -/
theorem listed_renewed {Q : ContainerHandle → Prop} {profile : SystemProfile}
    {cached fresh : List ContainerHandle} (hcached : ∀ c ∈ cached, Q c)
    (hfresh : Listed ContainerHandle.identifier Q (added profile cached) fresh) :
    Listed ContainerHandle.identifier Q profile.containerIds
      (drain profile.containerIds (pool (cached ++ fresh))) := by
  refine listed_drain profile.nodup fun id hid => ?_
  have hmem : id ∈ (cached ++ fresh).map (·.identifier) := by
    rw [List.map_append, hfresh.1, List.mem_append]
    by_cases hold : id ∈ cached.map (·.identifier)
    · exact .inl hold
    · exact .inr (mem_added_iff.2 ⟨hid, hold⟩)
  obtain ⟨c, hc, hfind, hcid⟩ := find?_pool hmem
  refine ⟨c, hfind, hcid, ?_⟩
  rcases List.mem_append.1 hc with hc | hc
  · exact hcached c hc
  · exact hfresh.2 c hc

theorem map_identifier_renewed {profile : SystemProfile} {cached fresh : List ContainerHandle}
    (h : fresh.map (·.identifier) = added profile cached) :
    (drain profile.containerIds (pool (cached ++ fresh))).map (·.identifier) = profile.containerIds :=
  (listed_renewed (Q := fun _ => True) (fun _ _ => trivial) ⟨h, fun _ _ => trivial⟩).1

end SystemHandle

/-! ## what the steps keep -/

namespace ProcessHandle

/-- The process is set up, by a reply to its own fetch. -/
def Faithful (ρ : Type) [Remote ρ] (p : ProcessHandle) : Prop :=
  ∃ profile, p.profile = some profile ∧ Received ρ p.identifier profile

theorem opening_faithful {id : Identifier} {p : ProcessHandle} (h : (opening id).Opens ρ p) :
    p.identifier = id ∧ p.Faithful ρ := by
  obtain ⟨rfl, profile, hprofile, hreceived⟩ := opening_opens h
  exact ⟨rfl, profile, hprofile, hreceived⟩

end ProcessHandle

namespace ContainerHandle

/-- The profile was received for the container, and the processes are those that it declares. -/
structure Faithful (ρ : Type) [Remote ρ] (c : ContainerHandle) : Prop where
  received : ∀ profile, c.profile = some profile → Received ρ c.identifier profile
  listed : ∀ ps, c.processes = some ps → ∃ profile, c.profile = some profile ∧
    Listed ProcessHandle.identifier (ProcessHandle.Faithful ρ) profile.processes ps

theorem opening_faithful {id : Identifier} {c : ContainerHandle} (h : (opening id).Opens ρ c) :
    c.identifier = id ∧ c.isReady ∧ c.Faithful ρ := by
  obtain ⟨profile, hreceived, rfl⟩ := opening_opens h
  refine ⟨rfl, rfl, ?_, ?_⟩
  · rintro _ ⟨⟩
    exact hreceived
  · rintro ps ⟨⟩

theorem map_identifier_of_opens {ids : List Identifier} {cs : List ContainerHandle}
    (h : List.Forall₂ (Branch.Opens ρ) (ids.map opening) cs) : cs.map (·.identifier) = ids :=
  (listed_of_opens (fun _ _ => opening_faithful) h).1

theorem new_faithful (id : Identifier) : (ContainerHandle.new id).Faithful ρ where
  received := by rintro _ ⟨⟩
  listed := by rintro _ ⟨⟩

/-- An operation on a container does not undo its setup. -/
theorem Step.isReady {c d : ContainerHandle} (h : Step ρ c d) (hc : c.isReady) : d.isReady := by
  cases h with
  | same => exact hc
  | setup profile h => rfl
  | enumerate ps h => exact hc

/-- **An operation on a container keeps it faithful.** -/
theorem Step.faithful {c d : ContainerHandle} (h : Step ρ c d) (hc : c.Faithful ρ) : d.Faithful ρ := by
  cases h with
  | same => exact hc
  | setup profile h =>
    refine ⟨?_, ?_⟩
    · rintro _ ⟨⟩
      exact h
    · rintro ps ⟨⟩
  | enumerate ps h =>
    refine ⟨hc.received, ?_⟩
    rintro _ ⟨⟩
    cases h with
    | kept h => exact hc.listed ps h
    | opened profile _ hprofile h =>
      exact ⟨profile, hprofile, listed_of_opens (fun _ _ => ProcessHandle.opening_faithful) h⟩

end ContainerHandle

namespace SystemHandle

/-- The profile was received, and the containers are those that it lists, each of them set up. -/
structure Faithful (ρ : Type) [Remote ρ] (s : SystemHandle) : Prop where
  received : ∀ profile, s.profile = some profile → Received ρ profile
  listed : ∀ cs, s.containers = some cs → ∃ profile, s.profile = some profile ∧
    Listed ContainerHandle.identifier (fun c => c.isReady ∧ c.Faithful ρ) profile.containerIds cs

theorem new_faithful : SystemHandle.new.Faithful ρ where
  received := by rintro _ ⟨⟩
  listed := by rintro _ ⟨⟩

/-- **An operation keeps a system faithful.** -/
theorem Step.faithful {s t : SystemHandle} (h : Step ρ s t) (hs : s.Faithful ρ) : t.Faithful ρ := by
  cases h with
  | same => exact hs
  | setup profile h =>
    refine ⟨?_, ?_⟩
    · rintro _ ⟨⟩
      exact h
    · rintro cs ⟨⟩
  | enumerate cs h =>
    refine ⟨hs.received, ?_⟩
    rintro _ ⟨⟩
    cases h with
    | kept h => exact hs.listed cs h
    | opened profile _ hprofile h =>
      exact ⟨profile, hprofile, listed_of_opens (fun _ _ => ContainerHandle.opening_faithful) h⟩
  | refresh profile t h hrenewed =>
    cases hrenewed with
    | bare old =>
      refine ⟨?_, ?_⟩
      · rintro _ ⟨⟩
        exact h
      · rintro cs ⟨⟩
    | enumerated old cached fresh hopen =>
      -- what was kept is faithful from before, whatever the old profile listed; the rest is by its replies
      obtain ⟨_, -, hcached⟩ := hs.listed cached rfl
      refine ⟨?_, ?_⟩
      · rintro _ ⟨⟩
        exact h
      · rintro _ ⟨⟩
        exact ⟨profile, rfl, listed_renewed hcached.2
          (listed_of_opens (fun _ _ => ContainerHandle.opening_faithful) hopen)⟩
  | container cs i c d hcs hc h =>
    refine ⟨hs.received, ?_⟩
    rintro _ ⟨⟩
    obtain ⟨profile, hprofile, hlisted⟩ := hs.listed cs hcs
    obtain ⟨hready, hfaithful⟩ := hlisted.2 c (List.mem_of_getElem? hc)
    exact ⟨profile, hprofile, hlisted.set hc h.identifier_eq ⟨h.isReady hready, h.faithful hfaithful⟩⟩

theorem run_new_faithful (ops : List Operation) (w : World ρ) : (run ops SystemHandle.new w).1.Faithful ρ :=
  run_keeps (fun _ _ h hs => h.faithful hs) ops w new_faithful

end SystemHandle

/-! ## coherence -/

/-- Enumerated processes are set up, and their identifiers are those that the profile declares, in its
order and as often. -/
def ContainerHandle.Coherent (c : ContainerHandle) : Prop :=
  ∀ ps, c.processes = some ps → ∃ profile, c.profile = some profile ∧
    ps.map (·.identifier) = profile.processes ∧ ∀ p ∈ ps, p.isReady

/-- Enumerated containers are set up and coherent, their identifiers are those that the profile lists, in
its order, and no two are the same. -/
def SystemHandle.Coherent (s : SystemHandle) : Prop :=
  ∀ cs, s.containers = some cs → ∃ profile, s.profile = some profile ∧
    cs.map (·.identifier) = Keyed.keys profile.containers ∧ (cs.map (·.identifier)).Nodup ∧
    ∀ c ∈ cs, c.isReady ∧ c.Coherent

theorem ContainerHandle.Faithful.coherent {c : ContainerHandle} (h : c.Faithful ρ) : c.Coherent := by
  intro ps hps
  obtain ⟨profile, hprofile, hids, hall⟩ := h.listed ps hps
  refine ⟨profile, hprofile, hids, fun p hp => ?_⟩
  obtain ⟨_, hpp, -⟩ := hall p hp
  rw [ProcessHandle.isReady, hpp]
  rfl

namespace SystemHandle

theorem Faithful.coherent {s : SystemHandle} (h : s.Faithful ρ) : s.Coherent := by
  intro cs hcs
  obtain ⟨profile, hprofile, hids, hall⟩ := h.listed cs hcs
  refine ⟨profile, hprofile, hids, hids ▸ profile.nodup, fun c hc => ?_⟩
  exact ⟨(hall c hc).1, (hall c hc).2.coherent⟩

/-- **A new system is coherent after every run**, whatever the remote side answers and whichever operations
fail. -/
theorem run_new_coherent (ops : List Operation) (w : World ρ) : (run ops SystemHandle.new w).1.Coherent :=
  (run_new_faithful ops w).coherent

end SystemHandle

end ProcessGraph
