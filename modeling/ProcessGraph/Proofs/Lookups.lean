import Mathlib.Data.List.Nodup
import ProcessGraph.Proofs.Traffic

/-!
# Look-ups by type name

* `Scans`: positions of first and of all matches, as a scan of some entities in their order finds them.
* `scans_of_typed`: `findIdx?` and `findIdxs` give them, if every entity has a type name.
* `SystemHandle.LooksUp`, `ContainerHandle.LooksUp`: what look-ups make of the end of an enumeration.
* `ContainerHandle.Reachable`: the containers that a client can come by.
* `lookups_agree`: in every state that can be reached, look-ups find what a scan finds.
-/

namespace ProcessGraph

/-! ## positions of matches -/

section Positions

variable {α : Type} {typeName? : α → Option String} {xs : List α}

/-- Positions as a scan of some entities in their order finds them: `first` gives that of the first match for a
type name, `all` those of all matches. -/
structure Scans (typeName? : α → Option String) (xs : List α) (first : String → Option Nat)
    (all : String → List Nat) : Prop where
  /-- The first match stands at the least position with the type name. -/
  first_iff : ∀ t i, first t = some i ↔
    xs[i]?.bind typeName? = some t ∧ ∀ j < i, xs[j]?.bind typeName? ≠ some t
  /-- There is no match only if no entity has the type name. -/
  absent_iff : ∀ t, first t = none ↔ ∀ x ∈ xs, typeName? x ≠ some t
  /-- All matches, and nothing else. -/
  mem_all_iff : ∀ t i, i ∈ all t ↔ xs[i]?.bind typeName? = some t
  /-- They stand in the order of the entities, none of them twice. -/
  ordered : ∀ t, (all t).Pairwise (· < ·)
  first_eq : ∀ t, first t = (all t).head?
  /-- Over all type names, each entity is found once. -/
  once : ∀ i < xs.length, ∃! t, i ∈ all t

theorem bind_getElem?_eq_some_iff {t : String} {i : Nat} :
    xs[i]?.bind typeName? = some t ↔ ∃ _ : i < xs.length, typeName? xs[i] = some t := by
  by_cases hi : i < xs.length <;> simp [hi]

theorem head?_findIdxs (p : α → Bool) : (xs.findIdxs p).head? = xs.findIdx? p := by
  induction xs with
  | nil => rfl
  | cons x xs ih =>
    rw [List.findIdxs_cons, List.findIdx?_cons]
    split
    · rfl
    · rw [List.findIdxs_start, List.head?_map, ih]

/-- The matches are what stands at their positions. -/
theorem filterMap_findIdxs (p : α → Bool) : (xs.findIdxs p).filterMap (xs[·]?) = xs.filter p := by
  induction xs with
  | nil => rfl
  | cons x xs ih =>
    have hrest : ((x :: xs).findIdxs p).filterMap ((x :: xs)[·]?) =
        (if p x then [x] else []) ++ xs.filter p := by
      rw [List.findIdxs_cons, List.findIdxs_start, ← ih]
      split <;> simp [List.filterMap_map]
    rw [hrest, List.filter_cons]
    split <;> rfl

/-- **The positions of matches are what a scan finds**, if every entity has a type name. -/
theorem scans_of_typed (h : ∀ x ∈ xs, (typeName? x).isSome) :
    Scans typeName? xs (fun t => xs.findIdx? (typeName? · = some t))
      (fun t => xs.findIdxs (typeName? · = some t)) := by
  have hmem : ∀ t i, i ∈ xs.findIdxs (typeName? · = some t) ↔ xs[i]?.bind typeName? = some t := by
    intro t i
    rw [List.mem_findIdxs_iff_exists_getElem_pos, bind_getElem?_eq_some_iff]
    simp
  refine ⟨fun t i => ?_, fun t => ?_, hmem, fun t => List.pairwise_findIdxs, fun t => ?_, fun i hi => ?_⟩
  · rw [List.findIdx?_eq_some_iff_getElem, bind_getElem?_eq_some_iff]
    constructor
    · rintro ⟨hi, hmatch, hbefore⟩
      refine ⟨⟨hi, by simpa using hmatch⟩, fun j hj => ?_⟩
      rw [Ne, bind_getElem?_eq_some_iff]
      rintro ⟨_, hjmatch⟩
      exact hbefore j hj (by simpa using hjmatch)
    · rintro ⟨⟨hi, hmatch⟩, hbefore⟩
      refine ⟨hi, by simpa using hmatch, fun j hj hjmatch => hbefore j hj ?_⟩
      exact bind_getElem?_eq_some_iff.2 ⟨by omega, by simpa using hjmatch⟩
  · simp [List.findIdx?_eq_none_iff]
  · exact (head?_findIdxs _).symm
  · obtain ⟨t, ht⟩ := Option.isSome_iff_exists.1 (h xs[i] (List.getElem_mem hi))
    refine ⟨t, (hmem t i).2 (bind_getElem?_eq_some_iff.2 ⟨hi, ht⟩), fun t' ht' => ?_⟩
    obtain ⟨_, hother⟩ := bind_getElem?_eq_some_iff.1 ((hmem t' i).1 ht')
    exact Option.some.inj (hother.symm.trans ht)

end Positions

/-! ## after an enumeration -/

section Enumeration

variable {ρ σ α β γ : Type}

/-- Look-ups by type name, as against the enumeration that comes first. They give what is made of the position of
the first match, and of the positions of all matches. -/
structure LooksUp (typeName? : α → Option String) (enumerate : Action ρ σ ClientError (List α))
    (find : Query → Action ρ σ ClientError β) (findAll : String → Action ρ σ ClientError γ)
    (one : List α → Option Nat → β) (many : List α → List Nat → γ) (s : σ) (w : World ρ) : Prop where
  /-- After a success look-ups find what a scan finds, be it nothing. -/
  done : ∀ xs, (enumerate s w).1 = .done xs → ∃ first all, Scans typeName? xs first all ∧ ∀ t,
    find (.byType t) s w = (.done (one xs (first t)), (enumerate s w).2) ∧
    findAll t s w = (.done (many xs (all t)), (enumerate s w).2)
  /-- A failure is the failure of the look-up. -/
  failed : ∀ e, (enumerate s w).1 = .failed e → ∀ t,
    find (.byType t) s w = (.failed e, (enumerate s w).2) ∧ findAll t s w = (.failed e, (enumerate s w).2)
  /-- A look-up waits as long as the enumeration does. -/
  waiting : (enumerate s w).1 = .waiting → ∀ t,
    find (.byType t) s w = (.waiting, (enumerate s w).2) ∧ findAll t s w = (.waiting, (enumerate s w).2)

variable {typeName? : α → Option String} {enumerate : Action ρ σ ClientError (List α)}
  {find : Query → Action ρ σ ClientError β} {findAll : String → Action ρ σ ClientError γ}
  {one : List α → Option Nat → β} {many : List α → List Nat → γ} {s : σ} {w : World ρ}

/-- Look-ups that give the positions of matches find what a scan finds. -/
theorem looksUp_of_positions
    (hfind : ∀ t, find (.byType t) s w =
      ((enumerate s w).1.map fun xs => one xs (xs.findIdx? (typeName? · = some t)), (enumerate s w).2))
    (hfindAll : ∀ t, findAll t s w =
      ((enumerate s w).1.map fun xs => many xs (xs.findIdxs (typeName? · = some t)), (enumerate s w).2))
    (htyped : ∀ xs, (enumerate s w).1 = .done xs → ∀ x ∈ xs, (typeName? x).isSome) :
    LooksUp typeName? enumerate find findAll one many s w where
  done := by
    intro xs hxs
    refine ⟨_, _, scans_of_typed (htyped xs hxs), fun t => ?_⟩
    rw [hfind, hfindAll, hxs]
    exact ⟨rfl, rfl⟩
  failed := by
    intro e he t
    rw [hfind, hfindAll, he]
    exact ⟨rfl, rfl⟩
  waiting := by
    intro hwaiting t
    rw [hfind, hfindAll, hwaiting]
    exact ⟨rfl, rfl⟩

end Enumeration

variable {ρ : Type} [Remote ρ]

/-! ## processes of a container -/

namespace ProcessHandle

/-- The type name in the cached profile. -/
def cachedType (p : ProcessHandle) : Option String := p.profile.map (·.typeName)

theorem hasType_eq (t : String) : hasType t = (cachedType · = some t) := by
  funext p
  obtain ⟨_, _ | profile⟩ := p <;> simp [hasType, cachedType]

end ProcessHandle

namespace ContainerHandle

/-- Look-ups in a container find what a scan of its processes finds, which stand in declared order. -/
structure Finds (c : ContainerHandle) (w : World ρ) : Prop where
  lookups : LooksUp ProcessHandle.cachedType enumerate find findAll (fun ps i => i.bind (ps[·]?))
    (fun ps is => is.filterMap (ps[·]?)) c w
  order : ∀ ps, (enumerate c w).1 = .done ps → (enumerate c w).2.1.processes = some ps ∧
    ∃ profile, c.profile = some profile ∧ ps.map (·.identifier) = profile.processes

theorem listed_of_enumerate {c : ContainerHandle} (hc : c.Faithful ρ) {w : World ρ} {ps : List ProcessHandle}
    (hps : (enumerate c w).1 = .done ps) : (enumerate c w).2.1.processes = some ps ∧
      ∃ profile, c.profile = some profile ∧
        Listed ProcessHandle.identifier (ProcessHandle.Faithful ρ) profile.processes ps := by
  have hafter : (enumerate c w).2.1.Faithful ρ :=
    (enumerate_looked c w).keeps hc fun _ _ h => h.step.faithful hc
  have hcommits := enumerate_commits c w
  generalize enumerate c w = r at hps hafter hcommits
  cases hcommits with
  | done h =>
    obtain ⟨-, rfl⟩ := h
    cases hps
    exact ⟨rfl, hafter.listed ps rfl⟩
  | failed e v => cases hps
  | waiting v => cases hps

theorem Faithful.finds {c : ContainerHandle} (hc : c.Faithful ρ) (w : World ρ) : c.Finds w where
  lookups := by
    refine looksUp_of_positions (fun t => ?_) (fun t => ?_) fun ps hps p hp => ?_
    · have hfind : (fun ps : List ProcessHandle => (ps.findIdx? (·.cachedType = some t)).bind (ps[·]?)) =
          List.find? (ProcessHandle.hasType t) := by
        funext ps
        rw [ProcessHandle.hasType_eq, List.find?_eq_bind_findIdx?_getElem?]
      rw [hfind]
      exact Action.bind_pure_apply _ _ c w
    · have hfindAll : (fun ps : List ProcessHandle => (ps.findIdxs (·.cachedType = some t)).filterMap (ps[·]?)) =
          List.filter (ProcessHandle.hasType t) := by
        funext ps
        rw [ProcessHandle.hasType_eq, filterMap_findIdxs]
      rw [hfindAll]
      exact Action.bind_pure_apply _ _ c w
    · obtain ⟨-, profile, -, hlisted⟩ := listed_of_enumerate hc hps
      obtain ⟨_, hprofile, -⟩ := hlisted.2 p hp
      simp [ProcessHandle.cachedType, hprofile]
  order := by
    intro ps hps
    obtain ⟨hkept, profile, hprofile, hlisted⟩ := listed_of_enumerate hc hps
    exact ⟨hkept, profile, hprofile, hlisted.1⟩

end ContainerHandle

/-! ## containers of a system -/

namespace ContainerHandle

/-- The type name in the cached profile. -/
def cachedType (c : ContainerHandle) : Option String := c.profile.map (·.typeName)

theorem hasType_eq (t : String) : hasType t = (cachedType · = some t) := by
  funext c
  obtain ⟨_, _ | profile, _⟩ := c <;> simp [hasType, cachedType]

end ContainerHandle

namespace SystemHandle

theorem positions_eq_findIdxs (t : String) (cs : List ContainerHandle) :
    positions t cs = cs.findIdxs (ContainerHandle.hasType t) := by
  have hmem : ∀ i, i ∈ positions t cs ↔ i ∈ cs.findIdxs (ContainerHandle.hasType t) := by
    intro i
    rw [List.mem_findIdxs_iff_exists_getElem_pos]
    by_cases hi : i < cs.length <;> simp [positions, hi]
  have hpositions : (positions t cs).Pairwise (· < ·) := List.pairwise_lt_range.filter _
  exact ((List.perm_ext_iff_of_nodup hpositions.nodup List.nodup_findIdxs).2 hmem).eq_of_pairwise
    (fun i j _ _ hij hji => by omega) hpositions List.pairwise_findIdxs

/-- Look-ups in a system find what a scan of its containers finds, which stand in profile order. -/
structure Finds (s : SystemHandle) (w : World ρ) : Prop where
  lookups : LooksUp ContainerHandle.cachedType enumerate find findAll (fun _ i => i) (fun _ is => is) s w
  order : ∀ cs, (enumerate s w).1 = .done cs → (enumerate s w).2.1.containers = some cs ∧
    ∃ profile, s.profile = some profile ∧ cs.map (·.identifier) = profile.containerIds

theorem listed_of_enumerate {s : SystemHandle} (hs : s.Faithful ρ) {w : World ρ} {cs : List ContainerHandle}
    (hcs : (enumerate s w).1 = .done cs) : (enumerate s w).2.1.containers = some cs ∧
      ∃ profile, s.profile = some profile ∧
        Listed ContainerHandle.identifier (fun c => c.isReady ∧ c.Faithful ρ) profile.containerIds cs := by
  have hafter : (enumerate s w).2.1.Faithful ρ := (enumerate_step s w).keeps hs fun _ _ h => h.faithful hs
  have hcommits := enumerate_commits s w
  generalize enumerate s w = r at hcs hafter hcommits
  cases hcommits with
  | done h =>
    obtain ⟨-, rfl⟩ := h
    cases hcs
    exact ⟨rfl, hafter.listed cs rfl⟩
  | failed e v => cases hcs
  | waiting v => cases hcs

theorem Faithful.finds {s : SystemHandle} (hs : s.Faithful ρ) (w : World ρ) : s.Finds w where
  lookups := by
    refine looksUp_of_positions (fun t => ?_) (fun t => ?_) fun cs hcs c hc => ?_
    · rw [find_byType, Action.bind_pure_apply, ContainerHandle.hasType_eq]
    · have hpositions : positions t = fun cs => cs.findIdxs (·.cachedType = some t) := by
        funext cs
        rw [positions_eq_findIdxs, ContainerHandle.hasType_eq]
      rw [findAll_eq, Action.bind_pure_apply, hpositions]
    · obtain ⟨-, profile, -, hlisted⟩ := listed_of_enumerate hs hcs
      simpa [ContainerHandle.cachedType, ContainerHandle.isReady] using (hlisted.2 c hc).1
  order := by
    intro cs hcs
    obtain ⟨hkept, profile, hprofile, hlisted⟩ := listed_of_enumerate hs hcs
    exact ⟨hkept, profile, hprofile, hlisted.1⟩

end SystemHandle

/-! ## states that can be reached -/

/-- The containers that a client can come by: those it makes itself, and those that a system hands it. What it
does with a container of a system is part of the run of that system. -/
inductive ContainerHandle.Reachable (ρ : Type) [Remote ρ] : ContainerHandle → Prop where
  | own (id : Identifier) (ops : List ContainerHandle.Operation) (w : World ρ) :
      Reachable ρ (runAll Operation.perform ops (ContainerHandle.new id) w).1
  | held (ops : List SystemHandle.Operation) (w : World ρ) {cs : List ContainerHandle} {c : ContainerHandle}
      (hcs : (SystemHandle.run ops SystemHandle.new w).1.containers = some cs) (hc : c ∈ cs) : Reachable ρ c

theorem ContainerHandle.Reachable.faithful {c : ContainerHandle} (h : c.Reachable ρ) : c.Faithful ρ := by
  cases h with
  | own id ops w => exact runAll_new_faithful ops id w
  | held ops w hcs hc =>
    obtain ⟨_, -, hlisted⟩ := (SystemHandle.run_new_faithful ops w).listed _ hcs
    exact (hlisted.2 c hc).2

/-- **Look-ups by type name find what a scan finds**, in every state of a system that a run can reach, and in every
container that a client can come by. A query without a type name finds nothing in every state, asks for nothing
and leaves everything as it is. -/
theorem lookups_agree (w : World ρ) :
    (∀ (ops : List SystemHandle.Operation) (w₀ : World ρ), (SystemHandle.run ops SystemHandle.new w₀).1.Finds w) ∧
    (∀ c : ContainerHandle, c.Reachable ρ → c.Finds w) ∧
    (∀ s : SystemHandle, SystemHandle.find .any s w = (.done none, s, w)) ∧
    ∀ c : ContainerHandle, ContainerHandle.find .any c w = (.done none, c, w) :=
  ⟨fun ops w₀ => (SystemHandle.run_new_faithful ops w₀).finds w, fun _ hc => hc.faithful.finds w, fun _ => rfl,
    fun _ => rfl⟩

namespace Frozen

/-- The grip that the arm names twice. -/
def grip : ProcessHandle := ⟨⟨"g"⟩, some ⟨"grip", []⟩⟩

theorem arm_finds : arm.Reachable (Frozen workshop) ∧ arm.Finds workshopWorld ∧
    (ContainerHandle.enumerate arm workshopWorld).1 = .done [grip, grip] := by
  have hcontainers : (SystemHandle.run [.setup, .containers] SystemHandle.new workshopWorld).1.containers =
      some [arm] := by with_unfolding_all rfl
  have hreachable : arm.Reachable (Frozen workshop) := .held _ workshopWorld hcontainers (List.mem_singleton_self _)
  obtain ⟨-, hfinds, -⟩ := lookups_agree workshopWorld
  exact ⟨hreachable, hfinds arm hreachable, by with_unfolding_all rfl⟩

end Frozen

end ProcessGraph
