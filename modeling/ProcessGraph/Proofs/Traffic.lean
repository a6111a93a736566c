import Mathlib.Data.List.Nodup
import ProcessGraph.Proofs.Episode
import ProcessGraph.Proofs.Rebuild
import ProcessGraph.Proofs.Siblings

/-!
# Discovery traffic

* `SystemHandle.Holds`: a container is among the enumerated ones, with a property. This is the invariant that
  links what a system holds to what it has fetched.
* `SystemHandle.Fetches`, `Operation.perform_fetches`: what an operation may fetch is missing before it and
  there after it.
* `Operation.perform_holds`: what a system holds it keeps, until a setup or a refresh drops it.
* `RepeatedOnlyAfter`: what operations of a run do is repeated for a reason.
* `no_redundant_traffic`: containers and processes are fetched again only after a failure or after they were
  dropped.
-/

namespace ProcessGraph

variable {ρ σ ω α β : Type}

open ProcessGraph.Action (Commits)

/-! ## requests of single operations -/

/-- The requests that an operation made. -/
def Episode.requests (e : Episode ω ρ σ) : List Request := e.finish.requests.drop e.start.requests.length

theorem Episode.requests_of {perform : ω → Action ρ σ ClientError Unit} {op : ω} {s : σ} {w : World ρ}
    {made : List Request} (h : (perform op s w).2.2.requests = w.requests ++ made) :
    (of perform op s w).requests = made := by
  rw [requests, of, h, List.drop_left]

theorem Action.consult_snd {ε : Type} (f : σ → Except ε α) (s : σ) (w : World ρ) :
    ((do
      let s ← read
      let _ ← ofExcept (f s)
      return () : Action ρ σ ε Unit) s w).2 = (s, w) := by
  rw [bind_apply, read_apply]
  simp only
  cases f s <;> rfl

/-- The container whose profile a request fetches. -/
def Request.container? : Request → Option Identifier
  | .fetch .container id => id
  | _ => none

/-- Opening containers fetches the first of them, in their order. -/
theorem gather_openings_requests [Remote ρ] (ids : List Identifier) (value : List ContainerHandle → β)
    (keep : List ContainerHandle → σ → σ) (s : σ) (w : World ρ) :
    ∃ made, (Action.gather (ids.map ContainerHandle.opening) value keep s w).2.2.requests = w.requests ++ made ∧
      made.filterMap Request.container? <+: ids := by
  refine ⟨_, Action.gather_requests _ value keep s w, ?_⟩
  rw [← List.map_take, List.map_map, List.filterMap_map]
  exact List.filterMap_some.symm ▸ List.take_prefix _ ids

/-! ## containers that a system holds -/

namespace SystemHandle

/-- A container is among the enumerated ones, with a property. -/
def Holds (Q : ContainerHandle → Prop) (id : Identifier) (s : SystemHandle) : Prop :=
  ∃ cs, s.containers = some cs ∧ id ∈ cs.map (·.identifier) ∧ ∀ c ∈ cs, c.identifier = id → Q c

theorem Renewed.holds [Remote ρ] {Q : ContainerHandle → Prop} {id : Identifier} {profile : SystemProfile}
    {s t : SystemHandle} (h : Renewed ρ profile s t) (hs : s.Holds Q id) (hid : id ∈ profile.containerIds) :
    t.Holds Q id := by
  obtain ⟨cs, hcs, hmem, hQ⟩ := hs
  cases h with
  | bare old => cases hcs
  | enumerated old cached fresh hopen =>
    cases hcs
    have hfresh : Listed ContainerHandle.identifier (fun c => c.identifier = id → Q c) (added profile cs)
        fresh := by
      have hids := ContainerHandle.map_identifier_of_opens hopen
      refine ⟨hids, fun c hc hcid => ?_⟩
      -- a container that is new to the system has another identifier
      have hadded : id ∈ added profile cs := hids ▸ hcid ▸ List.mem_map_of_mem hc
      exact absurd hmem (mem_added_iff.1 hadded).2
    obtain ⟨hids, hall⟩ := listed_renewed hQ hfresh
    exact ⟨_, rfl, by rw [hids]; exact hid, hall⟩

/-- Containers that a request of the system itself may fetch: none of them is among the enumerated ones, and
all of them are, once the operation has succeeded. -/
structure Fetches [Remote ρ] (ids : List Identifier) (s : SystemHandle) (w : World ρ)
    (r : Outcome ClientError α × SystemHandle × World ρ) : Prop where
  requests : ∃ made, r.2.2.requests = w.requests ++ made ∧ made.filterMap Request.container? <+: ids
  nodup : ids.Nodup
  missing : ∀ id ∈ ids, ¬ s.Holds (fun _ => True) id
  held : Commits s (fun _ t => ∀ id ∈ ids, t.Holds (fun _ => True) id) r

namespace Fetches

variable [Remote ρ] {ids : List Identifier} {s : SystemHandle} {w : World ρ}

/-- An action that fetches no containers. -/
theorem nothing {r : Outcome ClientError α × SystemHandle × World ρ} {P : α → SystemHandle → Prop}
    (made : List Request)
    (h : r.2.2.requests = w.requests ++ made) (hmade : made.filterMap Request.container? = [])
    (hr : Commits s P r) : Fetches [] s w r where
  requests := ⟨made, h, hmade ▸ List.prefix_rfl⟩
  nodup := List.nodup_nil
  missing := by simp
  held := hr.mono fun _ _ _ => by simp

theorem withValue {x : Action ρ SystemHandle ClientError α} {f : α → β} (h : Fetches ids s w (x s w)) :
    Fetches ids s w ((x >>= fun a => pure (f a)) s w) where
  requests := by
    rw [Action.bind_pure_apply]
    exact h.requests
  nodup := h.nodup
  missing := h.missing
  held := .withValue h.held

end Fetches

theorem enumerate_fetches [Remote ρ] (s : SystemHandle) (w : World ρ) :
    ∃ ids, Fetches ids s w (enumerate s w) := by
  have hcommits := enumerate_commits s w
  obtain ⟨_ | profile, _ | cs⟩ := s
  · exact ⟨[], .nothing [] (List.append_nil _).symm rfl hcommits⟩
  · exact ⟨[], .nothing [] (List.append_nil _).symm rfl hcommits⟩
  · refine ⟨profile.containerIds, ⟨?_, profile.nodup, ?_, ?_⟩⟩
    · rw [enumerate_eq, Action.remember_apply]
      exact gather_openings_requests profile.containerIds _ _ _ w
    · rintro id - ⟨_, ⟨⟩, -⟩
    · refine hcommits.mono fun cs t => ?_
      rintro ⟨⟨⟨⟩⟩ | ⟨profile, -, ⟨⟩, hopen⟩, rfl⟩ id hid
      exact ⟨cs, rfl, ContainerHandle.map_identifier_of_opens hopen ▸ hid, fun _ _ _ => trivial⟩
  · exact ⟨[], .nothing [] (List.append_nil _).symm rfl hcommits⟩

theorem reconcile_fetches [Remote ρ] (s : SystemHandle) (w : World ρ) :
    ∃ ids, Fetches ids s w (reconcile s w) := by
  have hcommits := reconcile_commits s w
  have hsent := World.requests_exchange w (.fetch .system none)
  rw [reconcile_apply] at hcommits ⊢
  generalize w.exchange (.fetch .system none) = sent at hcommits hsent
  obtain ⟨_ | reply, v⟩ := sent
  · exact ⟨[], .nothing _ hsent rfl hcommits⟩
  · simp only at hcommits ⊢
    cases hreceive : receive reply with
    | error e =>
      rw [hreceive] at hcommits
      exact ⟨[], .nothing _ hsent rfl hcommits⟩
    | ok profile =>
      rw [hreceive] at hcommits
      obtain ⟨old, _ | cached⟩ := s
      · exact ⟨[], .nothing _ hsent rfl hcommits⟩
      · refine ⟨added profile cached, ⟨?_, profile.nodup.filter _, ?_, ?_⟩⟩
        · obtain ⟨made, hmade, hfirst⟩ := gather_openings_requests (added profile cached) _ _ _ v
          exact ⟨.fetch .system none :: made, by rw [hmade, hsent, List.append_assoc]; rfl, hfirst⟩
        · rintro id hid ⟨_, ⟨⟩, hmem, -⟩
          exact (mem_added_iff.1 hid).2 hmem
        · refine (Action.gather_commits _ _ _ _ v).mono fun _ t => ?_
          rintro ⟨fresh, hopen, rfl⟩ id hid
          have hids := map_identifier_renewed (ContainerHandle.map_identifier_of_opens hopen)
          exact ⟨_, rfl, by rw [hids]; exact (mem_added_iff.1 hid).1, fun _ _ _ => trivial⟩

theorem refresh_fetches [Remote ρ] (s : SystemHandle) (w : World ρ) :
    ∃ ids, Fetches ids s w (refresh s w) := by
  obtain ⟨ids, ⟨made, hmade, hfirst⟩, hnodup, hmissing, hheld⟩ := reconcile_fetches s w
  have hheld := refresh_commits_of_reconcile hheld
  rw [refresh_apply] at hheld ⊢
  cases hprofile : s.profile with
  | none =>
    rw [hprofile] at hheld
    exact ⟨[], .nothing [] (List.append_nil _).symm rfl hheld⟩
  | some old =>
    rw [hprofile] at hheld
    refine ⟨ids, ⟨made, ?_, hfirst⟩, hnodup, hmissing, hheld⟩
    generalize reconcile s w = r at hmade
    obtain ⟨count | e | _, t, v⟩ := r
    · simp only
      cases t.profile? <;> exact (World.requests_logAll v _).trans hmade
    · exact (World.requests_logAll v _).trans hmade
    · exact hmade

theorem find_fetches [Remote ρ] (q : Query) (s : SystemHandle) (w : World ρ) :
    ∃ ids, Fetches ids s w (find q s w) := by
  obtain ⟨_ | name⟩ := q
  · exact ⟨[], .nothing [] (List.append_nil _).symm rfl (.done (P := fun _ _ => True) trivial)⟩
  · obtain ⟨ids, h⟩ := enumerate_fetches s w
    exact ⟨ids, h.withValue⟩

/-- **What an operation of the system itself may fetch** is missing before it and there after it. -/
theorem Operation.perform_fetches [Remote ρ] {op : Operation} (hop : ∀ i op', op ≠ .onContainer i op')
    (s : SystemHandle) (w : World ρ) : ∃ ids, Fetches ids s w (op.perform s w) := by
  have hcommits := op.perform_commits s w
  cases op with
  | setup =>
    refine ⟨[], .nothing [.fetch .system none] ?_ rfl hcommits⟩
    rw [perform, Action.bind_pure_apply, setup_eq]
    exact Action.adopt_requests _ _ _ _ s w
  | refresh =>
    obtain ⟨ids, h⟩ := refresh_fetches s w
    exact ⟨ids, h.withValue⟩
  | profile =>
    refine ⟨[], .nothing [] ?_ rfl hcommits⟩
    rw [perform, Action.consult_snd, List.append_nil]
  | containerIds =>
    refine ⟨[], .nothing [] ?_ rfl hcommits⟩
    rw [perform, Action.consult_snd, List.append_nil]
  | containers =>
    obtain ⟨ids, h⟩ := enumerate_fetches s w
    exact ⟨ids, h.withValue⟩
  | container q =>
    obtain ⟨ids, h⟩ := find_fetches q s w
    exact ⟨ids, h.withValue⟩
  | containersByType name =>
    obtain ⟨ids, h⟩ := enumerate_fetches s w
    exact ⟨ids, h.withValue.withValue⟩
  | list kind =>
    refine ⟨[], .nothing [.list kind] ?_ rfl hcommits⟩
    rw [← World.requests_exchange, perform, Action.bind_pure_apply, listIds, Action.bind_apply,
      Action.ask_apply]
    rcases w.exchange (.list kind) with ⟨_ | reply, v⟩
    · rfl
    · cases (reply : Except ClientError (List Identifier)) <;> rfl
  | onContainer i op' => exact absurd rfl (hop i op')

/-- The containers that the system itself fetched in an operation. -/
def fetched (e : Episode Operation ρ SystemHandle) : List Identifier :=
  match e.operation with
  | .onContainer _ _ => []
  | _ => e.requests.filterMap Request.container?

/-- A setup forgot all containers, or a refresh committed a profile without this one. -/
def Drops (id : Identifier) (e : Episode Operation ρ SystemHandle) : Prop :=
  e.succeeded ∧ (e.operation = .setup ∨
    e.operation = .refresh ∧ ∃ profile, e.after.profile = some profile ∧ id ∉ profile.containerIds)

/-- What is fetched in an operation is missing before it and there after it, and it is fetched once. -/
theorem fetched_of [Remote ρ] (op : Operation) (s : SystemHandle) (w : World ρ) :
    (fetched (.of Operation.perform op s w)).Nodup ∧
      (∀ id ∈ fetched (.of Operation.perform op s w), ¬ s.Holds (fun _ => True) id) ∧
      Commits s (fun _ t => ∀ id ∈ fetched (.of Operation.perform op s w), t.Holds (fun _ => True) id)
        (op.perform s w) := by
  by_cases hop : ∃ i op', op = .onContainer i op'
  · obtain ⟨i, op', rfl⟩ := hop
    refine ⟨List.nodup_nil, ?_, ?_⟩
    · rintro id ⟨⟩
    · refine (Operation.perform_commits _ s w).mono fun _ t _ => ?_
      rintro id ⟨⟩
  · have hop : ∀ i op', op ≠ .onContainer i op' := fun i op' h => hop ⟨i, op', h⟩
    obtain ⟨ids, ⟨made, hmade, hfirst⟩, hnodup, hmissing, hheld⟩ := op.perform_fetches hop s w
    have hfetched : fetched (.of Operation.perform op s w) = made.filterMap Request.container? := by
      rw [← Episode.requests_of hmade]
      cases op with
      | onContainer i op' => exact absurd rfl (hop i op')
      | _ => rfl
    rw [hfetched]
    refine ⟨hfirst.sublist.nodup hnodup, fun id hid => ?_, hheld.mono fun _ t ht id hid => ?_⟩
    · exact hmissing id (hfirst.subset hid)
    · exact ht id (hfirst.subset hid)

end SystemHandle

/-! ## processes that a container holds -/

namespace ContainerHandle

/-- Does an operation look at the processes? -/
def Operation.enumerates : Operation → Bool
  | processes | process _ | processesByType _ => true
  | _ => false

/-- An operation that looks at processes which are there changes nothing and makes no request. -/
theorem Operation.perform_of_kept [Remote ρ] {op : Operation} (hop : op.enumerates) {c : ContainerHandle}
    (hc : c.processes.isSome) (w : World ρ) : (op.perform c w).2 = (c, w) := by
  obtain ⟨id, profile, _ | ps⟩ := c
  · cases hc
  · cases op with
    | setup => cases hop
    | profile => cases hop
    | processes => rfl
    | process q => obtain ⟨_ | name⟩ := q <;> rfl
    | processesByType name => rfl

theorem Looked.processes_isSome [Remote ρ] {c d : ContainerHandle} (h : Looked ρ c d)
    (hc : c.processes.isSome) : d.processes.isSome := by
  cases h with
  | same => exact hc
  | enumerate ps h => rfl

/-- An operation that looks at the processes has them afterwards, unless it makes no request. -/
theorem Operation.perform_enumerates [Remote ρ] {op : Operation} (hop : op.enumerates) (c : ContainerHandle)
    (w : World ρ) : (op.perform c w).2 = (c, w) ∨
      Commits c (fun _ d => d.processes.isSome) (op.perform c w) := by
  have henumerate : Commits c (fun _ d => d.processes.isSome) (enumerate c w) := by
    refine (enumerate_commits c w).mono fun ps d => ?_
    rintro ⟨-, rfl⟩
    rfl
  cases op with
  | setup => cases hop
  | profile => cases hop
  | processes => exact .inr henumerate.withValue
  | process q =>
    obtain ⟨_ | name⟩ := q
    · exact .inl rfl
    · exact .inr (.withValue henumerate.withValue)
  | processesByType name => exact .inr (.withValue henumerate.withValue)

end ContainerHandle

/-! ## what a system holds, it keeps -/

namespace SystemHandle

theorem onContainer_apply {ε : Type} {cs : List ContainerHandle} {c : ContainerHandle} {i : Nat}
    (x : Action ρ ContainerHandle ε α) {s : SystemHandle} (hcs : s.containers = some cs)
    (hc : cs[i]? = some c) (w : World ρ) :
    onContainer i x s w =
      ((x c w).1.map some, { s with containers := some (cs.set i (x c w).2.1) }, (x c w).2.2) := by
  unfold onContainer
  simp only [hcs, hc]
  rcases x c w with ⟨a | e | _, d, v⟩ <;> rfl

/-- A look at a system with enumerated containers leaves it as it is. -/
theorem Looked.eq_of_kept [Remote ρ] {s t : SystemHandle} {cs : List ContainerHandle} (h : Looked ρ s t)
    (hcs : s.containers = some cs) : t = s := by
  cases h with
  | same => rfl
  | enumerate ds h =>
    cases h with
    | kept h => rw [← h]
    | opened profile hnone => cases hcs.symm.trans hnone

theorem Operation.perform_of_kept [Remote ρ] {op : Operation} (hop : op.looks) {s : SystemHandle}
    {cs : List ContainerHandle} (hcs : s.containers = some cs) (w : World ρ) : (op.perform s w).2.1 = s :=
  (perform_looked hop s w).keeps (I := (· = s)) rfl fun _ _ h => h.eq_of_kept hcs

theorem onContainer_holds [Remote ρ] {ε : Type} {Q : ContainerHandle → Prop} {id : Identifier} {i : Nat}
    {x : Action ρ ContainerHandle ε α} {s : SystemHandle}
    (hx : ∀ c w, Commits c (fun _ d => ContainerHandle.Step ρ c d) (x c w)) (w : World ρ) (hs : s.Holds Q id)
    (hQ : ∀ cs c, s.containers = some cs → cs[i]? = some c → c.identifier = id → Q c → Q (x c w).2.1) :
    (onContainer i x s w).2.1.Holds Q id := by
  obtain ⟨cs, hcs, hmem, hall⟩ := hs
  cases hc : cs[i]? with
  | none =>
    have hnone : onContainer i x s w = (.done none, s, w) := by
      unfold onContainer
      simp only [hcs, hc]
    rw [hnone]
    exact ⟨cs, hcs, hmem, hall⟩
  | some c =>
    rw [onContainer_apply _ hcs hc]
    have hstep := (hx c w).keeps (I := fun d => d.identifier = c.identifier) rfl fun _ _ h => h.identifier_eq
    have hlisted : Listed ContainerHandle.identifier (fun c => c.identifier = id → Q c)
      (cs.map (·.identifier)) cs := ⟨rfl, hall⟩
    obtain ⟨hids, hset⟩ := hlisted.set hc hstep fun hid =>
      hQ cs c hcs hc (hstep ▸ hid) (hall c (List.mem_of_getElem? hc) (hstep ▸ hid))
    exact ⟨_, rfl, by rw [hids]; exact hmem, hset⟩

/-- **A system keeps the containers that it holds**, unless an operation drops them. -/
theorem Operation.perform_holds [Remote ρ] {Q : ContainerHandle → Prop} {id : Identifier} (op : Operation)
    {s : SystemHandle} (w : World ρ) (hs : s.Holds Q id)
    (hQ : ∀ i op' cs c, op = .onContainer i op' → s.containers = some cs → cs[i]? = some c →
      c.identifier = id → Q c → Q (op'.perform c w).2.1) :
    (op.perform s w).2.1.Holds Q id ∨ Drops id (.of Operation.perform op s w) := by
  by_cases hdone : (Episode.of Operation.perform op s w).succeeded
  · cases op with
    | setup => exact .inr ⟨hdone, .inl rfl⟩
    | refresh =>
      have hcommits : Commits s (fun _ t => ∃ profile, Renewed ρ profile s t)
          (Operation.refresh.perform s w) :=
        .withValue ((refresh_commits s w).mono fun profile t h => ⟨profile, h.2⟩)
      obtain ⟨profile, hrenewed⟩ := Episode.commits_of_succeeded hcommits hdone
      by_cases hid : id ∈ profile.containerIds
      · exact .inl (hrenewed.holds hs hid)
      · exact .inr ⟨hdone, .inr ⟨rfl, profile, hrenewed.profile_eq, hid⟩⟩
    | onContainer i op' =>
      rw [perform, Action.bind_pure_apply]
      exact .inl (onContainer_holds (fun c w => op'.perform_commits c w) w hs
        fun cs c hcs hc hid hc' => hQ i op' cs c rfl hcs hc hid hc')
    | _ =>
      obtain ⟨cs, hcs, hrest⟩ := hs
      rw [perform_of_kept (by rfl) hcs]
      exact .inl ⟨cs, hcs, hrest⟩
  · rw [Episode.state_eq_of_not_succeeded (op.perform_commits s w) hdone]
    exact .inl hs

theorem holds_set {id : Identifier} {cs : List ContainerHandle} {c d : ContainerHandle} {i : Nat}
    (hnodup : (cs.map (·.identifier)).Nodup) (hc : cs[i]? = some c) (hcid : c.identifier = id)
    (hdid : d.identifier = id) (hd : d.processes.isSome) (profile : Option SystemProfile) :
    Holds (·.processes.isSome) id ⟨profile, some (cs.set i d)⟩ := by
  obtain ⟨hi, rfl⟩ := List.getElem?_eq_some_iff.1 hc
  have hlisted : Listed ContainerHandle.identifier (fun _ => True) (cs.map (·.identifier)) cs :=
    ⟨rfl, fun _ _ => trivial⟩
  obtain ⟨hids, -⟩ := hlisted.set hc (hdid.trans hcid.symm) trivial
  refine ⟨_, rfl, ?_, fun x hx hxid => ?_⟩
  · rw [hids]
    exact hcid ▸ List.mem_map_of_mem (List.getElem_mem hi)
  · obtain ⟨j, hj⟩ := List.mem_iff_getElem?.1 hx
    rw [List.getElem?_set] at hj
    split at hj
    next hij =>
      cases hj
      exact hd
    next hij =>
      -- no other container has this identifier
      obtain ⟨hjlt, rfl⟩ := List.getElem?_eq_some_iff.1 hj
      have hi' : i < (cs.map (·.identifier)).length := by simpa using hi
      have hj' : j < (cs.map (·.identifier)).length := by simpa using hjlt
      have hsame : (cs.map (·.identifier))[i] = (cs.map (·.identifier))[j] := by
        rw [List.getElem_map, List.getElem_map, hcid, hxid]
      exact absurd (hnodup.getElem_inj_iff.1 hsame) hij

end SystemHandle

/-! ## repetitions over a run -/

namespace Episode

/-- The operation ended in an error, or it was abandoned while it waited. -/
def Unsuccessful (e : Episode ω ρ σ) : Prop := (∃ error, e.outcome = .failed error) ∨ e.outcome = .waiting

theorem succeeded_or_unsuccessful (e : Episode ω ρ σ) : e.succeeded ∨ e.Unsuccessful := by
  obtain ⟨op, s, w, _ | error | _, t, v⟩ := e
  · exact .inl rfl
  · exact .inr (.inl ⟨error, rfl⟩)
  · exact .inr (.inr rfl)

end Episode

/-- What operations do is repeated only if the earlier one did not succeed, or if it was undone in between. -/
def RepeatedOnlyAfter (Undoes Does : Episode ω ρ σ → Prop) (es : List (Episode ω ρ σ)) : Prop :=
  ∀ (i j : Nat) (e f : Episode ω ρ σ), i < j → es[i]? = some e → es[j]? = some f → Does e → Does f →
    e.Unsuccessful ∨ ∃ k g, i < k ∧ k < j ∧ es[k]? = some g ∧ Undoes g

/-- A state that operations establish and that keeps them from being done again. -/
theorem repeatedOnlyAfter {perform : ω → Action ρ σ ClientError Unit} {I J : σ → Prop}
    {Undoes Does : Episode ω ρ σ → Prop}
    (hstep : ∀ op s w, I s → I (perform op s w).2.1 ∨ Undoes (.of perform op s w))
    (hdone : ∀ op s w, J s → Does (.of perform op s w) → (Episode.of perform op s w).succeeded →
      I (perform op s w).2.1)
    (hagain : ∀ op s w, I s → ¬ Does (.of perform op s w))
    (hreach : ∀ ops s w, J s → J (runAll perform ops s w).1)
    (ops : List ω) {s : σ} (w : World ρ) (hs : J s) :
    RepeatedOnlyAfter Undoes Does (episodes perform ops s w) := by
  intro i j e f hij he hf hde hdf
  rcases e.succeeded_or_unsuccessful with hsucceeded | hunsuccessful
  · have he' := he
    rw [getElem?_episodes] at he'
    obtain ⟨op, -, rfl⟩ := Option.map_eq_some_iff.1 he'
    rcases holds_or_undone hstep hij he hf (hdone op _ _ (hreach _ _ _ hs) hde hsucceeded) with hI | hundone
    · rw [getElem?_episodes] at hf
      obtain ⟨op', -, rfl⟩ := Option.map_eq_some_iff.1 hf
      exact absurd hdf (hagain op' _ _ hI)
    · exact .inr hundone
  · exact .inl hunsuccessful

/-! ## what is repeated by containers and systems -/

namespace ContainerHandle

/-- The operation looked at the processes, and it made requests. -/
def Asks (e : Episode Operation ρ ContainerHandle) : Prop := e.operation.enumerates ∧ e.requests ≠ []

/-- The operation set the container up anew. -/
def Resets (e : Episode Operation ρ ContainerHandle) : Prop := e.operation = .setup ∧ e.succeeded

theorem not_asks_of_kept [Remote ρ] (op : Operation) {c : ContainerHandle} (w : World ρ)
    (hc : c.processes.isSome) : ¬ Asks (.of Operation.perform op c w) := by
  rintro ⟨hop, hrequests⟩
  refine hrequests (Episode.requests_of ?_)
  rw [op.perform_of_kept hop hc, List.append_nil]

theorem kept_of_asks [Remote ρ] {op : Operation} {c : ContainerHandle} {w : World ρ}
    (h : Asks (.of Operation.perform op c w)) :
    Commits c (fun _ d => d.processes.isSome) (op.perform c w) := by
  obtain ⟨hop, hrequests⟩ := h
  refine (op.perform_enumerates hop c w).resolve_left fun hsame => ?_
  refine hrequests (Episode.requests_of ?_)
  rw [hsame, List.append_nil]

theorem repeatedOnlyAfter [Remote ρ] (ops : List Operation) (c : ContainerHandle) (w : World ρ) :
    RepeatedOnlyAfter Resets Asks (episodes Operation.perform ops c w) := by
  refine ProcessGraph.repeatedOnlyAfter (I := (·.processes.isSome)) (J := fun _ => True) ?_ ?_ ?_
    (fun _ _ _ _ => trivial) ops w trivial
  · intro op c w hc
    by_cases hop : op = .setup
    · by_cases hdone : (Episode.of Operation.perform op c w).succeeded
      · exact .inr ⟨hop, hdone⟩
      · rw [Episode.state_eq_of_not_succeeded (op.perform_commits c w) hdone]
        exact .inl hc
    · exact .inl ((Operation.perform_looked hop c w).keeps hc fun _ _ h => h.processes_isSome hc)
  · intro op c w _ hasks hdone
    exact Episode.commits_of_succeeded (kept_of_asks hasks) hdone
  · intro op c w hc
    exact not_asks_of_kept op w hc

end ContainerHandle

namespace SystemHandle

theorem fetched_repeatedOnlyAfter [Remote ρ] (ops : List Operation) (id : Identifier) (s : SystemHandle)
    (w : World ρ) :
    RepeatedOnlyAfter (Drops id) (id ∈ fetched ·) (episodes Operation.perform ops s w) := by
  refine ProcessGraph.repeatedOnlyAfter (I := Holds (fun _ => True) id) (J := fun _ => True) ?_ ?_ ?_
    (fun _ _ _ _ => trivial) ops w trivial
  · exact fun op s w hs => op.perform_holds w hs fun _ _ _ _ _ _ _ _ _ => trivial
  · intro op s w _ hfetched hdone
    obtain ⟨-, -, hheld⟩ := fetched_of op s w
    exact Episode.commits_of_succeeded hheld hdone id hfetched
  · intro op s w hs hfetched
    obtain ⟨-, hmissing, -⟩ := fetched_of op s w
    exact hmissing id hfetched hs

/-- The operation was one on the enumerated container with an identifier, and as an operation of that container
it was like this. -/
def On [Remote ρ] (id : Identifier) (P : Episode ContainerHandle.Operation ρ ContainerHandle → Prop)
    (e : Episode Operation ρ SystemHandle) : Prop :=
  ∃ i op cs c, e.operation = .onContainer i op ∧ e.before.containers = some cs ∧ cs[i]? = some c ∧
    c.identifier = id ∧ P (.of ContainerHandle.Operation.perform op c e.start)

theorem holds_of_asks [Remote ρ] {id : Identifier} {op : Operation} {s : SystemHandle} {w : World ρ}
    (hs : s.Faithful ρ) (h : On id ContainerHandle.Asks (.of Operation.perform op s w))
    (hdone : (Episode.of Operation.perform op s w).succeeded) :
    (op.perform s w).2.1.Holds (·.processes.isSome) id := by
  obtain ⟨i, op', cs, c, hop, hcs, hc, hid, hasks⟩ := h
  obtain rfl : op = .onContainer i op' := hop
  have hcs : s.containers = some cs := hcs
  have hasks : ContainerHandle.Asks (.of ContainerHandle.Operation.perform op' c w) := hasks
  have hcommits := (ContainerHandle.kept_of_asks hasks).and (op'.perform_commits c w)
  obtain ⟨profile, -, hids, -⟩ := hs.listed cs hcs
  unfold Episode.succeeded Episode.of at hdone
  rw [Operation.perform, Action.bind_pure_apply, onContainer_apply _ hcs hc] at hdone ⊢
  generalize op'.perform c w = r at hcommits hdone ⊢
  cases hcommits with
  | done h => exact holds_set (hids ▸ profile.nodup) hc hid (h.2.identifier_eq.trans hid) h.1 _
  | failed e w => cases hdone
  | waiting w => cases hdone

theorem asks_repeatedOnlyAfter [Remote ρ] (ops : List Operation) (id : Identifier) {s : SystemHandle}
    (w : World ρ) (hs : s.Faithful ρ) :
    RepeatedOnlyAfter (fun g => On id ContainerHandle.Resets g ∨ Drops id g) (On id ContainerHandle.Asks)
      (episodes Operation.perform ops s w) := by
  refine ProcessGraph.repeatedOnlyAfter (I := Holds (·.processes.isSome) id) (J := Faithful ρ) ?_ ?_ ?_ ?_
    ops w hs
  · intro op s w hs
    by_cases hreset : On id ContainerHandle.Resets (.of Operation.perform op s w)
    · exact .inr (.inl hreset)
    refine (op.perform_holds w hs fun i op' cs c hop hcs hc hid hQ => ?_).imp_right .inr
    by_cases hsetup : op' = .setup
    · have hdone : ¬ (Episode.of ContainerHandle.Operation.perform op' c w).succeeded := fun hdone =>
        hreset ⟨i, op', cs, c, hop, hcs, hc, hid, hsetup, hdone⟩
      rw [Episode.state_eq_of_not_succeeded (op'.perform_commits c w) hdone]
      exact hQ
    · exact (ContainerHandle.Operation.perform_looked hsetup c w).keeps hQ fun _ _ h => h.processes_isSome hQ
  · exact fun op s w hs hasks hdone => holds_of_asks hs hasks hdone
  · rintro op s w ⟨cs, hcs, -, hall⟩ ⟨i, op', cs', c, -, hcs', hc, hid, hasks⟩
    cases hcs.symm.trans hcs'
    exact ContainerHandle.not_asks_of_kept op' w (hall c (List.mem_of_getElem? hc) hid) hasks
  · intro ops s w hs
    rw [← run_eq_runAll]
    exact run_keeps (fun _ _ h hs => h.faithful hs) ops w hs

end SystemHandle

/-- **No redundant discovery traffic.** In every run, an operation fetches no container twice; a system fetches a
container again only if the operation that fetched it did not succeed or if the container was dropped in
between; and the processes of a container are asked for again only if they were not received or if the container
was set up or dropped in between. A look-up among enumerated entities changes nothing and makes no request, and
so does a look-up without a criterion. -/
theorem no_redundant_traffic [Remote ρ] (w : World ρ) :
    (∀ ops, ∀ e ∈ episodes SystemHandle.Operation.perform ops .new w, (SystemHandle.fetched e).Nodup) ∧
    (∀ ops id, RepeatedOnlyAfter (SystemHandle.Drops id) (id ∈ SystemHandle.fetched ·)
      (episodes SystemHandle.Operation.perform ops .new w)) ∧
    (∀ ops id, RepeatedOnlyAfter
      (fun g => SystemHandle.On id ContainerHandle.Resets g ∨ SystemHandle.Drops id g)
      (SystemHandle.On id ContainerHandle.Asks) (episodes SystemHandle.Operation.perform ops .new w)) ∧
    (∀ ops id, RepeatedOnlyAfter ContainerHandle.Resets ContainerHandle.Asks
      (episodes ContainerHandle.Operation.perform ops (.new id) w)) ∧
    (∀ profile cs q, (SystemHandle.find q ⟨profile, some cs⟩ w).2 = (⟨profile, some cs⟩, w)) ∧
    (∀ profile cs name, (SystemHandle.findAll name ⟨profile, some cs⟩ w).2 = (⟨profile, some cs⟩, w)) ∧
    (∀ id profile ps q, (ContainerHandle.find q ⟨id, profile, some ps⟩ w).2 = (⟨id, profile, some ps⟩, w)) ∧
    (∀ id profile ps name,
      (ContainerHandle.findAll name ⟨id, profile, some ps⟩ w).2 = (⟨id, profile, some ps⟩, w)) ∧
    (∀ s, SystemHandle.find .any s w = (.done none, s, w)) ∧
    (∀ c, ContainerHandle.find .any c w = (.done none, c, w)) := by
  refine ⟨fun ops e he => ?_, fun ops id => ?_, fun ops id => ?_, fun ops id => ?_, fun profile cs q => ?_,
    fun _ _ _ => rfl, fun id profile ps q => ?_, fun _ _ _ _ => rfl, fun _ => rfl, fun _ => rfl⟩
  · obtain ⟨i, hi⟩ := List.mem_iff_getElem?.1 he
    rw [getElem?_episodes] at hi
    obtain ⟨op, -, rfl⟩ := Option.map_eq_some_iff.1 hi
    exact (SystemHandle.fetched_of op _ _).1
  · exact SystemHandle.fetched_repeatedOnlyAfter ops id _ w
  · exact SystemHandle.asks_repeatedOnlyAfter ops id w SystemHandle.new_faithful
  · exact ContainerHandle.repeatedOnlyAfter ops _ w
  · obtain ⟨_ | name⟩ := q <;> rfl
  · obtain ⟨_ | name⟩ := q <;> rfl

namespace Frozen

/-- The workshop lists the arm, then the base instead of it, and then the arm again. -/
def changingWorld : World (Frozen workshop) := .start ⟨[listing ["a"], listing ["b"], listing ["a"]]⟩

/-- The arm is enumerated, looked at twice and set up in between, dropped and fetched again. -/
def changingOperations : List SystemHandle.Operation :=
  [.setup, .containers, .onContainer 0 .processes, .onContainer 0 .setup, .onContainer 0 .processes, .refresh,
    .refresh]

/-- The arm before its processes are looked at. -/
def arm : ContainerHandle := ⟨⟨"a"⟩, some ⟨"arm", [⟨"g"⟩, ⟨"g"⟩], []⟩, none⟩

/-- The episodes of that run. -/
def changingEpisodes : List (Episode SystemHandle.Operation (Frozen workshop) SystemHandle) :=
  episodes SystemHandle.Operation.perform changingOperations .new changingWorld

theorem workshop_traffic :
    (∃ e f, changingEpisodes[1]? = some e ∧ changingEpisodes[6]? = some f ∧
      SystemHandle.fetched e = [⟨"a"⟩] ∧ SystemHandle.fetched f = [⟨"a"⟩] ∧ (SystemHandle.fetched f).Nodup ∧
      (e.Unsuccessful ∨
        ∃ k g, 1 < k ∧ k < 6 ∧ changingEpisodes[k]? = some g ∧ SystemHandle.Drops ⟨"a"⟩ g)) ∧
    (∃ e f, changingEpisodes[2]? = some e ∧ changingEpisodes[4]? = some f ∧
      SystemHandle.On ⟨"a"⟩ ContainerHandle.Asks e ∧ SystemHandle.On ⟨"a"⟩ ContainerHandle.Asks f ∧
      (e.Unsuccessful ∨ ∃ k g, 2 < k ∧ k < 4 ∧ changingEpisodes[k]? = some g ∧
        (SystemHandle.On ⟨"a"⟩ ContainerHandle.Resets g ∨ SystemHandle.Drops ⟨"a"⟩ g))) := by
  obtain ⟨hnodup, hfetched, hasks, -⟩ := no_redundant_traffic changingWorld
  constructor
  · obtain ⟨e, he⟩ : ∃ e, changingEpisodes[1]? = some e := ⟨_, rfl⟩
    obtain ⟨f, hf⟩ : ∃ f, changingEpisodes[6]? = some f := ⟨_, rfl⟩
    have hea : SystemHandle.fetched e = [⟨"a"⟩] := by
      obtain rfl : _ = e := Option.some.inj he
      with_unfolding_all rfl
    have hfa : SystemHandle.fetched f = [⟨"a"⟩] := by
      obtain rfl : _ = f := Option.some.inj hf
      with_unfolding_all rfl
    refine ⟨e, f, he, hf, hea, hfa, hnodup changingOperations f (List.mem_of_getElem? hf), ?_⟩
    exact hfetched changingOperations ⟨"a"⟩ 1 6 e f (by decide) he hf (by simp [hea]) (by simp [hfa])
  · obtain ⟨e, he⟩ : ∃ e, changingEpisodes[2]? = some e := ⟨_, rfl⟩
    obtain ⟨f, hf⟩ : ∃ f, changingEpisodes[4]? = some f := ⟨_, rfl⟩
    have hea : SystemHandle.On ⟨"a"⟩ ContainerHandle.Asks e := by
      obtain rfl : _ = e := Option.some.inj he
      refine ⟨0, .processes, [arm], arm, rfl, ?_, rfl, rfl, rfl, ?_⟩
      · with_unfolding_all rfl
      · with_unfolding_all exact List.cons_ne_nil _ _
    have hfa : SystemHandle.On ⟨"a"⟩ ContainerHandle.Asks f := by
      obtain rfl : _ = f := Option.some.inj hf
      refine ⟨0, .processes, [arm], arm, rfl, ?_, rfl, rfl, rfl, ?_⟩
      · with_unfolding_all rfl
      · with_unfolding_all exact List.cons_ne_nil _ _
    exact ⟨e, f, he, hf, hea, hfa, hasks changingOperations ⟨"a"⟩ 2 4 e f (by decide) he hf hea hfa⟩

end Frozen

end ProcessGraph
