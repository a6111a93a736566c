import ProcessGraph.Proofs.Coherence
import ProcessGraph.Proofs.Requests

/-!
# Siblings and the replies to them

* `FanOut.replies`: what is replied to some branches if all of them start in order.
* `Gathered`: how siblings were fetched, as against the replies to all of them: which requests were made,
  when that succeeded, and where values and errors come from.
* `gathered_fanOut`, `gathered_gather`, `gathered_remember`: every fan-out is like that, whatever is done with
  its values.
* `SystemHandle.enumerate_gathered`, `ContainerHandle.enumerate_gathered`, `SystemHandle.refresh_gathered`:
  so are the three operations that fan out.
-/

namespace ProcessGraph

variable {ρ σ α β ε π : Type}

/-! ## the replies to siblings -/

namespace FanOut

/-- The replies to the branches, if all of them start in order. -/
def replies [Remote ρ] : List (Branch α) → ρ → List (Option (Except ClientError Json.Value))
  | [], _ => []
  | b :: rest, r =>
    let (answer, r) := Remote.answer r b.request
    answer.map (·.reply) :: replies rest r

theorem length_replies [Remote ρ] (bs : List (Branch α)) (r : ρ) : (replies bs r).length = bs.length := by
  induction bs generalizing r with
  | nil => rfl
  | cons b rest ih => simp [replies, ih]

theorem map_result?_returns [Remote ρ] (bs : List (Branch α)) (r : ρ) :
    (returns bs r).map result? =
      (bs.zip (replies bs r)).map fun p => p.2.map fun reply => (p.1.finish reply).2 := by
  induction bs generalizing r with
  | nil => rfl
  | cons b rest ih =>
    simp only [returns, replies, Branch.request, List.map_cons, List.zip_cons_cons, ih, List.cons.injEq,
      and_true]
    cases (Remote.answer r (.fetch b.kind (some b.identifier))).1 <;> rfl

end FanOut

/-- How siblings were fetched, as against the replies to all of them. `Reads` tells what an identifier and a
document are read as. -/
structure Gathered (opening : Identifier → Branch α) (Reads : Identifier → Json.Value → α → Prop)
    (ids : List Identifier) (replies : List (Option (Except ClientError Json.Value))) (made : List Request)
    (o : Outcome ClientError (List α)) : Prop where
  /-- The fetches succeed exactly when every reply is a document that can be read. -/
  done_iff : (∃ xs, o = .done xs) ↔
    ∀ p ∈ ids.zip replies, ∃ document x, p.2 = some (.ok document) ∧ Reads p.1 document x
  /-- Then there was one request for each identifier, in their order, and at each position stands what the
  reply to its own request is read as. -/
  done : ∀ xs, o = .done xs → made = ids.map (fun id => (opening id).request) ∧
    List.Forall₂ (fun p x => ∃ document, p.2 = some (.ok document) ∧ Reads p.1 document x)
      (ids.zip replies) xs
  /-- If they fail, the requests were those of the first identifiers, and the error is that of one of them. -/
  failed : ∀ e, o = .failed e → made <+: ids.map (fun id => (opening id).request) ∧
    ∃ p ∈ (ids.zip replies).take made.length, ∃ reply, p.2 = some reply ∧
      ((opening p.1).finish reply).2 = .error e

/-! ## elements in a relation -/

theorem forall₂_iff_map_eq {γ δ : Type} {f : γ → δ} {g : α → δ} {R : γ → α → Prop}
    (hR : ∀ c a, f c = g a ↔ R c a) {l : List γ} {xs : List α} :
    List.Forall₂ R l xs ↔ l.map f = xs.map g := by
  rw [← List.forall₂_eq_eq_eq, List.forall₂_map_left_iff, List.forall₂_map_right_iff]
  simp only [hR]

theorem exists_forall₂_iff {γ : Type} {R : γ → α → Prop} {l : List γ} :
    (∃ xs, List.Forall₂ R l xs) ↔ ∀ c ∈ l, ∃ a, R c a := by
  induction l with
  | nil => simp
  | cons c l ih =>
    rw [List.forall_mem_cons, ← ih]
    constructor
    · rintro ⟨_, _ | ⟨ha, hxs⟩⟩
      exact ⟨⟨_, ha⟩, _, hxs⟩
    · rintro ⟨⟨a, ha⟩, xs, hxs⟩
      exact ⟨a :: xs, .cons ha hxs⟩

/-! ## every fan-out gathers -/

section

variable [Remote ρ] {opening : Identifier → Branch α} {Reads : Identifier → Json.Value → α → Prop}

open FanOut

/-- The values of a fan-out are what the replies are read as. -/
theorem verdict_eq_done_iff_reads
    (hreads : ∀ id reply x, ((opening id).finish reply).2 = .ok x ↔
      ∃ document, reply = .ok document ∧ Reads id document x) {ids : List Identifier} {r : ρ} {xs : List α} :
    verdict (returns (ids.map opening) r) = .done xs ↔
      List.Forall₂ (fun p x => ∃ document, p.2 = some (.ok document) ∧ Reads p.1 document x)
        (ids.zip (replies (ids.map opening) r)) xs := by
  rw [verdict_eq_done_iff, map_result?_returns, List.zip_map_left, List.map_map, forall₂_iff_map_eq]
  rintro ⟨id, _ | reply⟩ x
  · simp
  · simp [hreads]

/-- **Every fan-out gathers its siblings.** -/
theorem gathered_fanOut
    (hreads : ∀ id reply x, ((opening id).finish reply).2 = .ok x ↔
      ∃ document, reply = .ok document ∧ Reads id document x)
    (ids : List Identifier) (s : σ) (w : World ρ) :
    ∃ made, (Action.fanOut (ids.map opening) s w).2.2.requests = w.requests ++ made ∧
      Gathered opening Reads ids (replies (ids.map opening) w.remote) made
        (Action.fanOut (ids.map opening) s w).1 := by
  refine ⟨_, fanOut_requests _ s w, ?_⟩
  obtain ⟨w', hfan⟩ := fanOut_apply (ids.map opening) s w
  rw [hfan]
  refine ⟨?_, fun xs hxs => ⟨?_, (verdict_eq_done_iff_reads hreads).1 hxs⟩, fun e he => ⟨?_, ?_⟩⟩
  · simp only [verdict_eq_done_iff_reads hreads, exists_forall₂_iff]
    refine forall_congr' fun p => forall_congr' fun _ => exists_comm.trans ?_
    simp
  · have hall : ∀ e, verdict (returns (ids.map opening) w.remote) ≠ .failed e := by
      intro e he
      cases hxs.symm.trans he
    rw [started_eq_of_verdict hall, length_returns, List.take_length, List.map_map]
    rfl
  · have hprefix := (List.take_prefix (started (returns (ids.map opening) w.remote)) (ids.map opening)).map
      Branch.request
    rwa [List.map_map] at hprefix
  · have herror := error_mem_take_started_of_verdict he
    rw [List.map_take, map_result?_returns, List.zip_map_left, List.map_map, ← List.map_take,
      List.mem_map] at herror
    obtain ⟨⟨id, _ | reply⟩, hp, hreply⟩ := herror
    · cases hreply
    · have hlength : started (returns (ids.map opening) w.remote) ≤ (ids.map opening).length :=
        length_returns (ids.map opening) w.remote ▸ started_le _
      refine ⟨(id, some reply), ?_, reply, rfl, by simpa using hreply⟩
      rwa [List.length_map, List.length_take_of_le hlength]

/-- The value of an outcome. -/
def Outcome.value? : Outcome ε α → Option α
  | .done a => some a
  | _ => none

/-- What is gathered decides how the action ends and what it keeps. -/
theorem gathered_gather
    (hreads : ∀ id reply x, ((opening id).finish reply).2 = .ok x ↔
      ∃ document, reply = .ok document ∧ Reads id document x)
    (ids : List Identifier) (value : List α → β) (keep : List α → σ → σ) (s : σ) (w : World ρ) :
    ∃ made o, Gathered opening Reads ids (replies (ids.map opening) w.remote) made o ∧
      (Action.gather (ids.map opening) value keep s w).2.2.requests = w.requests ++ made ∧
      (Action.gather (ids.map opening) value keep s w).1 = o.map value ∧
      (Action.gather (ids.map opening) value keep s w).2.1 = (o.value?.map (keep · s)).getD s := by
  obtain ⟨made, hmade, hgathered⟩ := gathered_fanOut hreads ids s w
  obtain ⟨w', hfan⟩ := fanOut_apply (ids.map opening) s w
  rw [Action.gather_apply]
  rw [hfan] at hmade hgathered ⊢
  refine ⟨made, _, hgathered, ?_⟩
  cases verdict (returns (ids.map opening) w.remote) <;> exact ⟨hmade, rfl, rfl⟩

/-- What is kept nowhere is gathered, and kept then. -/
theorem gathered_remember
    (hreads : ∀ id reply x, ((opening id).finish reply).2 = .ok x ↔
      ∃ document, reply = .ok document ∧ Reads id document x)
    {x : Action ρ σ ClientError (List α)} {kept : σ → Option (List α)}
    {siblings : σ → Except ClientError (List (Branch α))} {keep : List α → σ → σ}
    (hx : x = Action.remember kept siblings keep) {ids : List Identifier} {s : σ} (hkept : kept s = none)
    (hids : siblings s = .ok (ids.map opening)) (w : World ρ) :
    ∃ made, (x s w).2.2.requests = w.requests ++ made ∧
      Gathered opening Reads ids (replies (ids.map opening) w.remote) made (x s w).1 ∧
      (x s w).2.1 = ((x s w).1.value?.map (keep · s)).getD s := by
  obtain ⟨made, o, hgathered, hmade, ho, hstate⟩ := gathered_gather hreads ids id keep s w
  have hvalue : o.map id = o := by cases o <;> rfl
  rw [hvalue] at ho
  rw [hx, Action.remember_apply, hkept, hids]
  simp only
  exact ⟨made, hmade, ho ▸ hgathered, by rw [ho, hstate]⟩

end

/-! ## what documents are read as -/

/-- A handle is made of a document if its profile is received from that document. -/
theorem map_eq_ok_iff_of_received {received : Except ClientError π} {reply : Except ClientError Json.Value}
    {ofDocument : Json.Value → Except Json.ShapeError π} {handle : π → α}
    (h : ∀ profile, received = .ok profile ↔
      ∃ document, reply = .ok document ∧ ofDocument document = .ok profile) (x : α) :
    received.map handle = .ok x ↔
      ∃ document, reply = .ok document ∧ ∃ profile, ofDocument document = .ok profile ∧ x = handle profile := by
  constructor
  · intro hx
    cases received with
    | error e => cases hx
    | ok profile =>
      cases hx
      obtain ⟨document, hreply, hprofile⟩ := (h profile).1 rfl
      exact ⟨document, hreply, profile, hprofile, rfl⟩
  · rintro ⟨document, hreply, profile, hprofile, rfl⟩
    rw [(h profile).2 ⟨document, hreply, hprofile⟩]
    rfl

namespace ProcessHandle

theorem receive_eq_ok_iff {id : Identifier} {reply : Except ClientError Json.Value}
    {profile : ProcessProfile} : (receive id reply).2 = .ok profile ↔
      ∃ document, reply = .ok document ∧ ProcessProfile.ofDocument document = .ok profile := by
  cases reply with
  | error e => simp [receive]
  | ok document =>
    simp only [receive, Except.ok.injEq, exists_eq_left']
    cases ProcessProfile.ofDocument document <;> simp

/-- A document of its own makes the process. -/
def Reads (id : Identifier) (document : Json.Value) (p : ProcessHandle) : Prop :=
  ∃ profile, ProcessProfile.ofDocument document = .ok profile ∧ p = ⟨id, some profile⟩

theorem opening_finish_eq_ok_iff (id : Identifier) (reply : Except ClientError Json.Value) (p : ProcessHandle) :
    ((opening id).finish reply).2 = .ok p ↔ ∃ document, reply = .ok document ∧ Reads id document p :=
  map_eq_ok_iff_of_received (fun _ => receive_eq_ok_iff) p

end ProcessHandle

namespace ContainerHandle

theorem receive_eq_ok_iff {id : Identifier} {reply : Except ClientError Json.Value}
    {profile : ContainerProfile} : (receive id reply).2 = .ok profile ↔
      ∃ document, reply = .ok document ∧ ContainerProfile.ofDocument document = .ok profile := by
  cases reply with
  | error e => simp [receive, Except.bind]
  | ok document =>
    simp only [receive, Except.bind, Except.ok.injEq, exists_eq_left']
    cases ContainerProfile.ofDocument document <;> simp [Except.mapError]

/-- A document of its own makes the container, which has no processes yet. -/
def Reads (id : Identifier) (document : Json.Value) (c : ContainerHandle) : Prop :=
  ∃ profile, ContainerProfile.ofDocument document = .ok profile ∧ c = ⟨id, some profile, none⟩

theorem opening_finish_eq_ok_iff (id : Identifier) (reply : Except ClientError Json.Value)
    (c : ContainerHandle) :
    ((opening id).finish reply).2 = .ok c ↔ ∃ document, reply = .ok document ∧ Reads id document c :=
  map_eq_ok_iff_of_received (fun _ => receive_eq_ok_iff) c

end ContainerHandle

theorem SystemHandle.receive_eq_ok_iff {reply : Except ClientError Json.Value} {profile : SystemProfile} :
    receive reply = .ok profile ↔
      ∃ document, reply = .ok document ∧ SystemProfile.ofDocument document = .ok profile := by
  cases reply with
  | error e => simp [receive, Except.bind]
  | ok document =>
    simp only [receive, Except.bind, Except.ok.injEq, exists_eq_left']
    cases SystemProfile.ofDocument document <;> simp [Except.mapError]

/-! ## the operations that fan out -/

namespace SystemHandle

/-- How a refresh to a profile ends and what it makes of a system with enumerated containers, once the missing
ones have been fetched: it lists the containers of the profile, in its order, out of the old and the new
ones. -/
inductive Refreshed (profile old : SystemProfile) (cached : List ContainerHandle) :
    Outcome ClientError (List ContainerHandle) → Outcome ClientError SystemProfile → SystemHandle → Prop where
  | done {fresh cs : List ContainerHandle}
      (h : Listed ContainerHandle.identifier (· ∈ cached ++ fresh) profile.containerIds cs) :
      Refreshed profile old cached (.done fresh) (.done profile) ⟨some profile, some cs⟩
  | failed {e : ClientError} : Refreshed profile old cached (.failed e) (.failed e) ⟨some old, some cached⟩
  | waiting : Refreshed profile old cached .waiting .waiting ⟨some old, some cached⟩

/-- What is read for some identifiers has these identifiers. -/
theorem map_identifier_of_reads {ids : List Identifier}
    {replies : List (Option (Except ClientError Json.Value))} {cs : List ContainerHandle}
    (hlength : ids.length ≤ replies.length)
    (h : List.Forall₂ (fun p c => ∃ document, p.2 = some (.ok document) ∧
      ContainerHandle.Reads p.1 document c) (ids.zip replies) cs) :
    cs.map (·.identifier) = ids := by
  have hids : List.Forall₂ (fun (p : Identifier × Option (Except ClientError Json.Value)) c =>
      p.1 = c.identifier) (ids.zip replies) cs := by
    refine h.imp ?_
    rintro p c ⟨document, -, profile, -, rfl⟩
    rfl
  rw [← (forall₂_iff_map_eq fun _ _ => Iff.rfl).1 hids, List.map_fst_zip hlength]

/-- **A refresh of a system with enumerated containers** whose profile has been received gathers the missing
ones. -/
theorem refresh_gathered [Remote ρ] (old : SystemProfile) (cached : List ContainerHandle)
    {profile : SystemProfile} {document : Json.Value} {w v : World ρ}
    (hreply : w.exchange (.fetch .system none) = (some (.ok document), v))
    (hprofile : SystemProfile.ofDocument document = .ok profile) :
    ∃ made o, (refresh ⟨some old, some cached⟩ w).2.2.requests =
        w.requests ++ .fetch .system none :: made ∧
      Gathered ContainerHandle.opening ContainerHandle.Reads (added profile cached)
        (FanOut.replies ((added profile cached).map ContainerHandle.opening) v.remote) made o ∧
      Refreshed profile old cached o (refresh ⟨some old, some cached⟩ w).1
        (refresh ⟨some old, some cached⟩ w).2.1 := by
  obtain ⟨made, o, hgathered, hmade, ho, hstate⟩ := gathered_gather ContainerHandle.opening_finish_eq_ok_iff
    (added profile cached) (fun _ => profile.containers.length)
    (fun fresh _ => ⟨some profile, some (drain profile.containerIds (pool (cached ++ fresh)))⟩)
    (⟨some old, some cached⟩ : SystemHandle) v
  have hreconcile := reconcile_apply (⟨some old, some cached⟩ : SystemHandle) w
  simp only [hreply, receive_eq_ok_iff.2 ⟨document, rfl, hprofile⟩] at hreconcile
  have hsent : v.requests = w.requests ++ [.fetch .system none] := by
    have h := World.requests_exchange w (.fetch .system none)
    rwa [hreply] at h
  rw [hsent, List.append_assoc] at hmade
  rw [refresh_apply, hreconcile]
  generalize Action.gather _ _ _ _ v = result at hmade ho hstate
  obtain ⟨outcome, t, u⟩ := result
  obtain rfl : outcome = _ := ho
  obtain rfl : t = _ := hstate
  cases o with
  | done fresh =>
    have hids := map_identifier_of_reads (by simp [FanOut.length_replies]) (hgathered.done fresh rfl).2
    have hlisted := listed_renewed (fun c hc => List.mem_append_left fresh hc)
      ⟨hids, fun c hc => List.mem_append_right cached hc⟩
    exact ⟨made, _, (World.requests_logAll u _).trans hmade, hgathered, .done hlisted⟩
  | failed e => exact ⟨made, _, (World.requests_logAll u _).trans hmade, hgathered, .failed⟩
  | waiting => exact ⟨made, _, hmade, hgathered, .waiting⟩

end SystemHandle

end ProcessGraph
