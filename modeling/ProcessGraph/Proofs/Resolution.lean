import ProcessGraph.Proofs.Lookups
import ProcessGraph.Proofs.Quiet

/-!
# What resolving a process comes to

* `Remote.after`: the remote side after some requests. All that an action does to it, it does by its requests.
* `World.Fetched`: profiles were fetched, and nothing else was done.
* `Roll`, `Lists`: what becomes of siblings that are kept, or else read from the replies to their own fetches.
* `Resolution`, `SystemHandle.Resolves`: what becomes of a process that is looked for by type names, as the replies to
  all fetches on the way decide it.
* `Command.resolve_resolves`: a command resolves processes in this way, by fetches alone.
-/

namespace ProcessGraph

variable {ρ σ ε α : Type}

/-! ## the remote side after some requests -/

/-- The remote side after some requests. -/
def Remote.after [Remote ρ] (r : ρ) (requests : List Request) : ρ :=
  requests.foldl (fun r q => (Remote.answer r q).2) r

/-- The reply to a request, unless it is never answered. -/
def Remote.reply? [Remote ρ] (r : ρ) (q : Request) : Option q.Reply := (Remote.answer r q).1.map (·.reply)

/-- All of the requests fetch profiles of parts of the system. -/
def PartFetches (made : List Request) : Prop := ∀ q ∈ made, ∃ kind id, q = .fetch kind (some id)

namespace PartFetches

variable {made made' : List Request}

theorem append (h : PartFetches made) (h' : PartFetches made') : PartFetches (made ++ made') :=
  List.forall_mem_append.2 ⟨h, h'⟩

theorem fetches (h : PartFetches made) : ∀ q ∈ made, ∃ kind id, q = .fetch kind id := by
  intro q hq
  obtain ⟨kind, id, rfl⟩ := h q hq
  exact ⟨kind, some id, rfl⟩

end PartFetches

namespace World

variable [Remote ρ]

theorem exchange_fst (w : World ρ) (q : Request) : (w.exchange q).1 = Remote.reply? w.remote q := by
  unfold exchange send Remote.reply?
  rcases Remote.answer w.remote q with ⟨_ | a, r⟩ <;> rfl

theorem remote_exchange (w : World ρ) (q : Request) : (w.exchange q).2.remote = Remote.after w.remote [q] := by
  have hafter : Remote.after w.remote [q] = (Remote.answer w.remote q).2 := rfl
  rw [hafter]
  unfold exchange send
  rcases Remote.answer w.remote q with ⟨_ | a, r⟩ <;> rfl

/-- The remote side is where the requests have brought it. -/
theorem onward_after : Onward fun w v : World ρ =>
    ∃ made, v.requests = w.requests ++ made ∧ v.remote = Remote.after w.remote made where
  refl w := ⟨[], (List.append_nil _).symm, rfl⟩
  trans := by
    rintro u v w ⟨made, hrequests, hremote⟩ ⟨made', hrequests', hremote'⟩
    refine ⟨made ++ made', ?_, ?_⟩
    · rw [hrequests', hrequests, List.append_assoc]
    · rw [hremote', hremote, Remote.after, Remote.after, Remote.after, List.foldl_append]
  send w q := ⟨[q], requests_send w q, rfl⟩
  logAll w es := ⟨[], by simp, rfl⟩
  advanceTo w moment := ⟨[], by simp, rfl⟩

/-- From one world to a later one, profiles were fetched by these requests, and nothing was printed. -/
structure Fetched (w v : World ρ) (made : List Request) : Prop where
  requests : v.requests = w.requests ++ made
  fetches : ∀ q ∈ made, ∃ kind id, q = .fetch kind id
  remote : v.remote = Remote.after w.remote made
  lines : v.lines = w.lines

namespace Fetched

variable {u v w : World ρ} {made made' : List Request}

theorem refl (w : World ρ) : Fetched w w [] where
  requests := (List.append_nil _).symm
  fetches := by simp
  remote := rfl
  lines := rfl

theorem trans (h : Fetched u v made) (h' : Fetched v w made') : Fetched u w (made ++ made') where
  requests := by rw [h'.requests, h.requests, List.append_assoc]
  fetches := List.forall_mem_append.2 ⟨h.fetches, h'.fetches⟩
  remote := by rw [h'.remote, h.remote, Remote.after, Remote.after, Remote.after, List.foldl_append]
  lines := h'.lines.trans h.lines

/-- An action that changes the world by requests, events and waits does what its requests do. -/
theorem of_leaves {x : Action ρ σ ε α} (hx : ∀ {R : World ρ → World ρ → Prop}, Onward R → x.Leaves R) {s : σ}
    (hmade : (x s w).2.2.requests = w.requests ++ made) (hfetches : ∀ q ∈ made, ∃ kind id, q = .fetch kind id) :
    Fetched w (x s w).2.2 made := by
  obtain ⟨made', hrequests, hremote⟩ := hx onward_after s w
  obtain rfl := List.append_cancel_left (hmade.symm.trans hrequests)
  exact ⟨hmade, hfetches, hremote, hx onward_lines s w⟩

end Fetched

end World

/-! ## first entries -/

/-- The first entry of a list with a property. -/
def First (P : α → Prop) (xs : List α) (x : α) : Prop :=
  ∃ before after, xs = before ++ x :: after ∧ P x ∧ ∀ y ∈ before, ¬ P y

theorem find?_eq_some_iff_first {p : α → Bool} {xs : List α} {x : α} :
    xs.find? p = some x ↔ First (p · = true) xs x := by
  rw [List.find?_eq_some_iff_append, First]
  constructor
  · rintro ⟨hx, before, after, hxs, hbefore⟩
    exact ⟨before, after, hxs, hx, by simpa using hbefore⟩
  · rintro ⟨before, after, hxs, hx, hbefore⟩
    exact ⟨hx, before, after, hxs, by simpa using hbefore⟩

theorem First.unique {P : α → Prop} {xs : List α} {x y : α} (hx : First P xs x) (hy : First P xs y) : x = y := by
  classical
  have hfind : ∀ z, First P xs z → xs.find? (fun z => decide (P z)) = some z := by
    intro z hz
    apply find?_eq_some_iff_first.2
    simpa using hz
  exact Option.some.inj ((hfind x hx).symm.trans (hfind y hy))

theorem First.mem {P : α → Prop} {xs : List α} {x : α} (h : First P xs x) : x ∈ xs ∧ P x := by
  obtain ⟨before, after, rfl, hx, -⟩ := h
  exact ⟨by simp, hx⟩

/-! ## what becomes of siblings -/

/-- What becomes of siblings that are listed: all of them are there, or the fetch of one came to nothing, or one was
never answered. -/
inductive Roll (α : Type) where
  | all (xs : List α)
  | unreadable
  | unanswered

/-- What a list of siblings has become, by the outcome of an action. -/
def Outcome.roll : Outcome ε (List α) → Roll α
  | .done xs => .all xs
  | .failed _ => .unreadable
  | .waiting => .unanswered

section Siblings

variable {opening : Identifier → Branch α} {Reads : Identifier → Json.Value → α → Prop}
  {answers : List (Identifier × Option (Except ClientError Json.Value))} {a b : Roll α}

/-- The reply is a document that can be read. -/
def Readable (Reads : Identifier → Json.Value → α → Prop) (id : Identifier)
    (reply : Except ClientError Json.Value) : Prop :=
  ∃ document x, reply = .ok document ∧ Reads id document x

/-- What becomes of siblings by the replies to them: if all replies are documents that can be read, these are read;
if one is not, that fails; otherwise it waits for those that never come. -/
inductive Gives (Reads : Identifier → Json.Value → α → Prop)
    (answers : List (Identifier × Option (Except ClientError Json.Value))) : Roll α → Prop where
  | all {xs : List α}
      (h : List.Forall₂ (fun p x => ∃ document, p.2 = some (.ok document) ∧ Reads p.1 document x) answers xs) :
      Gives Reads answers (.all xs)
  | unreadable {id : Identifier} {reply : Except ClientError Json.Value} (hmem : (id, some reply) ∈ answers)
      (h : ¬ Readable Reads id reply) : Gives Reads answers .unreadable
  | unanswered {id : Identifier} (hmem : (id, none) ∈ answers)
      (h : ∀ id reply, (id, some reply) ∈ answers → Readable Reads id reply) : Gives Reads answers .unanswered

/-- Siblings that are all there were all read. -/
theorem Gives.exists_of_all {xs : List α} (h : Gives Reads answers (.all xs)) :
    ∀ p ∈ answers, ∃ document x, p.2 = some (.ok document) ∧ Reads p.1 document x := by
  cases h with
  | all h => exact fun p hp => exists_comm.1 (exists_forall₂_iff.1 ⟨xs, h⟩ p hp)

theorem Gives.eq_all (hright : ∀ id document x y, Reads id document x → Reads id document y → x = y) {xs : List α}
    (h : Gives Reads answers (.all xs)) (ha : Gives Reads answers a) : a = .all xs := by
  have hread := h.exists_of_all
  cases ha with
  | all ha =>
    have hunique : Relator.RightUnique (fun (p : Identifier × Option (Except ClientError Json.Value)) x =>
        ∃ document, p.2 = some (.ok document) ∧ Reads p.1 document x) := by
      rintro ⟨id, reply⟩ x y ⟨document, rfl, hx⟩ ⟨document', hdocument, hy⟩
      cases hdocument
      exact hright id document x y hx hy
    cases h with
    | all h => rw [hunique.forall₂ ha h]
  | unreadable hmem hnot =>
    obtain ⟨document, x, hreply, hx⟩ := hread _ hmem
    exact absurd ⟨document, x, Option.some.inj hreply, hx⟩ hnot
  | unanswered hmem =>
    obtain ⟨document, x, hreply, -⟩ := hread _ hmem
    cases hreply

/-- **The replies decide what becomes of siblings.** -/
theorem Gives.unique (hright : ∀ id document x y, Reads id document x → Reads id document y → x = y)
    (ha : Gives Reads answers a) (hb : Gives Reads answers b) : a = b := by
  cases ha with
  | all h => exact (Gives.eq_all hright (.all h) hb).symm
  | unreadable hmem h =>
    cases hb with
    | all h' => exact Gives.eq_all hright (.all h') (.unreadable hmem h)
    | unreadable => rfl
    | unanswered _ h' => exact absurd (h' _ _ hmem) h
  | unanswered hmem h =>
    cases hb with
    | all h' => exact Gives.eq_all hright (.all h') (.unanswered hmem h)
    | unreadable hmem' h' => exact absurd (h _ _ hmem') h'
    | unanswered => rfl

variable [Remote ρ]

open FanOut

/-- **A fan-out does what the replies decide.** -/
theorem gives_fanOut
    (hreads : ∀ id reply x, ((opening id).finish reply).2 = .ok x ↔
      ∃ document, reply = .ok document ∧ Reads id document x)
    (ids : List Identifier) (s : σ) (w : World ρ) :
    Gives Reads (ids.zip (replies (ids.map opening) w.remote)) (Action.fanOut (ids.map opening) s w).1.roll := by
  have hresults := map_result?_returns (ids.map opening) w.remote
  rw [List.zip_map_left, List.map_map] at hresults
  obtain ⟨w', hfan⟩ := fanOut_apply (ids.map opening) s w
  rw [hfan]
  cases hverdict : verdict (returns (ids.map opening) w.remote) with
  | done xs => exact .all ((verdict_eq_done_iff_reads hreads).1 hverdict)
  | failed e =>
    have herror := error_mem_of_verdict hverdict
    rw [hresults] at herror
    obtain ⟨⟨id, _ | reply⟩, hmem, hreply⟩ := List.mem_map.1 herror
    · cases hreply
    · refine .unreadable hmem ?_
      rintro ⟨document, x, hdocument, hx⟩
      have hfinish := (hreads id reply x).2 ⟨document, hdocument, hx⟩
      simp [hfinish] at hreply
  | waiting =>
    have hread : ∀ id reply, (id, some reply) ∈ ids.zip (replies (ids.map opening) w.remote) →
        Readable Reads id reply := by
      intro id reply hmem
      cases hx : ((opening id).finish reply).2 with
      | ok x =>
        obtain ⟨document, hdocument, hx⟩ := (hreads id reply x).1 hx
        exact ⟨document, x, hdocument, hx⟩
      | error e =>
        -- a fan-out with an error does not wait
        have herror : some (.error e) ∈ (returns (ids.map opening) w.remote).map result? := by
          rw [hresults]
          exact List.mem_map.2 ⟨_, hmem, by simp [hx]⟩
        obtain ⟨e', hfailed⟩ := exists_verdict_failed_iff.2 ⟨e, herror⟩
        cases hverdict.symm.trans hfailed
    by_cases hnone : ∃ id, (id, none) ∈ ids.zip (replies (ids.map opening) w.remote)
    · obtain ⟨id, hmem⟩ := hnone
      exact .unanswered hmem hread
    · have hall : ∃ xs, verdict (returns (ids.map opening) w.remote) = .done xs := by
        simp only [verdict_eq_done_iff_reads hreads, exists_forall₂_iff]
        rintro ⟨id, _ | reply⟩ hp
        · exact absurd ⟨id, hp⟩ hnone
        · obtain ⟨document, x, rfl, hx⟩ := hread id reply hp
          exact ⟨x, document, rfl, hx⟩
      obtain ⟨xs, hdone⟩ := hall
      cases hverdict.symm.trans hdone

/-! ## siblings that may be kept -/

/-- What becomes of the siblings below an entity: those that are kept, or else those that its profile lists, by the
replies to their fetches. -/
inductive Lists (opening : Identifier → Branch α) (Reads : Identifier → Json.Value → α → Prop)
    (kept : Option (List α)) (ids? : Option (List Identifier)) (r : ρ) : Roll α → Prop where
  | kept {xs : List α} (h : kept = some xs) : Lists opening Reads kept ids? r (.all xs)
  | fetched {ids : List Identifier} {roll : Roll α} (hkept : kept = none) (hids : ids? = some ids)
      (h : Gives Reads (ids.zip (replies (ids.map opening) r)) roll) : Lists opening Reads kept ids? r roll
  | unready (hkept : kept = none) (hids : ids? = none) : Lists opening Reads kept ids? r .unreadable

/-- The fetches of all siblings, unless they are kept. -/
def fetchesOf (opening : Identifier → Branch α) (kept : Option (List α)) (ids? : Option (List Identifier)) :
    List Request :=
  match kept, ids? with
  | none, some ids => ids.map fun id => (opening id).request
  | _, _ => []

theorem Lists.unique {kept : Option (List α)} {ids? : Option (List Identifier)} {r : ρ}
    (hright : ∀ id document x y, Reads id document x → Reads id document y → x = y)
    (ha : Lists opening Reads kept ids? r a) (hb : Lists opening Reads kept ids? r b) : a = b := by
  cases ha with
  | kept h =>
    cases hb with
    | kept h' => rw [Option.some.inj (h.symm.trans h')]
    | fetched hkept => cases h.symm.trans hkept
    | unready hkept => cases h.symm.trans hkept
  | fetched hkept hids h =>
    cases hb with
    | kept h' => cases hkept.symm.trans h'
    | fetched _ hids' h' =>
      obtain rfl := Option.some.inj (hids.symm.trans hids')
      exact h.unique hright h'
    | unready _ hids' => cases hids.symm.trans hids'
  | unready hkept hids =>
    cases hb with
    | kept h' => cases hkept.symm.trans h'
    | fetched _ hids' _ => cases hids.symm.trans hids'
    | unready => rfl

/-- **Siblings that are remembered** become what the replies decide, by fetches alone. -/
theorem lists_remember
    (hreads : ∀ id reply x, ((opening id).finish reply).2 = .ok x ↔
      ∃ document, reply = .ok document ∧ Reads id document x)
    {x : Action ρ σ ClientError (List α)} {kept : σ → Option (List α)} {ids? : σ → Option (List Identifier)}
    {siblings : σ → Except ClientError (List (Branch α))} {keep : List α → σ → σ}
    (hx : x = Action.remember kept siblings keep)
    (hsome : ∀ s ids, ids? s = some ids → siblings s = .ok (ids.map opening))
    (hnone : ∀ s, ids? s = none → ∃ e, siblings s = .error e) (s : σ) (w : World ρ) :
    Lists opening Reads (kept s) (ids? s) w.remote (x s w).1.roll ∧
    ∃ made, w.Fetched (x s w).2.2 made ∧ PartFetches made ∧
      ∀ xs, (x s w).1 = .done xs → made = fetchesOf opening (kept s) (ids? s) := by
  have hleaves : ∀ {R : World ρ → World ρ → Prop}, World.Onward R → x.Leaves R := by
    intro R hR
    rw [hx]
    exact Action.leaves_remember hR _ _ _
  have happly := Action.remember_apply kept siblings keep s w
  rw [← hx] at happly
  cases hkept : kept s with
  | some xs =>
    rw [happly, hkept]
    exact ⟨.kept rfl, [], .refl w, nofun, fun _ _ => rfl⟩
  | none =>
    cases hids : ids? s with
    | none =>
      obtain ⟨e, he⟩ := hnone s hids
      rw [happly, hkept, he]
      exact ⟨.unready rfl rfl, [], .refl w, nofun, fun _ _ => rfl⟩
    | some ids =>
      rw [hkept, hsome s ids hids] at happly
      simp only [Action.gather_apply] at happly
      have hgives := gives_fanOut hreads ids s w
      have hrequests := fanOut_requests (ids.map opening) s w
      obtain ⟨made, hmade, hgathered⟩ := gathered_fanOut hreads ids s w
      obtain rfl := List.append_cancel_left (hmade.symm.trans hrequests)
      have hsame : (x s w).1 = (Action.fanOut (ids.map opening) s w).1 ∧
          (x s w).2.2 = (Action.fanOut (ids.map opening) s w).2.2 := by
        rw [happly]
        rcases Action.fanOut (ids.map opening) s w with ⟨xs | e | _, t, v⟩ <;> exact ⟨rfl, rfl⟩
      have hparts : PartFetches (((ids.map opening).take (started (returns (ids.map opening) w.remote))).map
          Branch.request) := by
        intro q hq
        obtain ⟨b, -, rfl⟩ := List.mem_map.1 hq
        exact ⟨_, _, rfl⟩
      rw [hsame.1]
      exact ⟨.fetched rfl rfl hgives, _, .of_leaves hleaves (hsame.2 ▸ hmade) hparts.fetches, hparts,
        fun xs hxs => (hgathered.done xs hxs).1⟩

end Siblings

/-! ## resolving -/

/-- What becomes of a process that is looked for by type names. -/
inductive Resolution where
  | found (p : ProcessHandle)
  | noContainer
  | noProcess
  | unreadable
  | unanswered

/-- What has become of a process, by the outcome of a look-up in a container. -/
def Outcome.resolution : Outcome ε (Option ProcessHandle) → Resolution
  | .done (some p) => .found p
  | .done none => .noProcess
  | .failed _ => .unreadable
  | .waiting => .unanswered

variable [Remote ρ]

theorem ProcessHandle.reads_unique (id : Identifier) (document : Json.Value) (p q : ProcessHandle)
    (hp : Reads id document p) (hq : Reads id document q) : p = q := by
  obtain ⟨profile, hprofile, rfl⟩ := hp
  obtain ⟨profile', hprofile', rfl⟩ := hq
  rw [Except.ok.inj (hprofile.symm.trans hprofile')]

namespace ContainerHandle

theorem reads_unique (id : Identifier) (document : Json.Value) (c d : ContainerHandle)
    (hc : Reads id document c) (hd : Reads id document d) : c = d := by
  obtain ⟨profile, hprofile, rfl⟩ := hc
  obtain ⟨profile', hprofile', rfl⟩ := hd
  rw [Except.ok.inj (hprofile.symm.trans hprofile')]

/-- What becomes of the processes of a container. -/
abbrev Lists (c : ContainerHandle) (r : ρ) : Roll ProcessHandle → Prop :=
  ProcessGraph.Lists ProcessHandle.opening ProcessHandle.Reads c.processes (c.profile.map (·.processes)) r

theorem lists_enumerate (c : ContainerHandle) (w : World ρ) :
    c.Lists w.remote (enumerate c w).1.roll ∧ ∃ made, w.Fetched (enumerate c w).2.2 made ∧ PartFetches made := by
  have hsome : ∀ c : ContainerHandle, ∀ ids, c.profile.map (·.processes) = some ids →
      c.profile?.map (·.processes.map ProcessHandle.opening) = .ok (ids.map ProcessHandle.opening) := by
    intro c ids hids
    obtain ⟨profile, hprofile, rfl⟩ := Option.map_eq_some_iff.1 hids
    rw [profile?_eq_ok_iff.2 hprofile]
    rfl
  have hnone : ∀ c : ContainerHandle, c.profile.map (·.processes) = none →
      ∃ e, c.profile?.map (·.processes.map ProcessHandle.opening) = .error e := by
    intro c hids
    rw [profile?, Option.map_eq_none_iff.1 hids]
    exact ⟨_, rfl⟩
  obtain ⟨hlists, made, hfetched, hparts, -⟩ :=
    lists_remember ProcessHandle.opening_finish_eq_ok_iff enumerate_eq hsome hnone c w
  exact ⟨hlists, made, hfetched, hparts⟩

/-- What becomes of a process that is looked for in a container: it is the first of its type, in declared order. -/
inductive Resolves (process : String) (c : ContainerHandle) (r : ρ) : Resolution → Prop where
  | unreadable (h : c.Lists r .unreadable) : Resolves process c r .unreadable
  | unanswered (h : c.Lists r .unanswered) : Resolves process c r .unanswered
  | noProcess {ps : List ProcessHandle} (h : c.Lists r (.all ps)) (hnone : ∀ p ∈ ps, p.cachedType ≠ some process) :
      Resolves process c r .noProcess
  | found {ps : List ProcessHandle} {p : ProcessHandle} (h : c.Lists r (.all ps))
      (hp : First (·.cachedType = some process) ps p) : Resolves process c r (.found p)

theorem Resolves.unique {process : String} {c : ContainerHandle} {r : ρ} {a b : Resolution}
    (ha : Resolves process c r a) (hb : Resolves process c r b) : a = b := by
  have hsame : ∀ {x y}, c.Lists r x → c.Lists r y → x = y := fun hx hy =>
    hx.unique ProcessHandle.reads_unique hy
  cases ha with
  | unreadable h => cases hb with
    | unreadable => rfl
    | unanswered h' | noProcess h' | found h' => cases hsame h h'
  | unanswered h => cases hb with
    | unanswered => rfl
    | unreadable h' | noProcess h' | found h' => cases hsame h h'
  | noProcess h hnone => cases hb with
    | noProcess => rfl
    | unreadable h' | unanswered h' => cases hsame h h'
    | found h' hp =>
      cases hsame h h'
      exact absurd hp.mem.2 (hnone _ hp.mem.1)
  | found h hp => cases hb with
    | unreadable h' | unanswered h' => cases hsame h h'
    | noProcess h' hnone =>
      cases hsame h h'
      exact absurd hp.mem.2 (hnone _ hp.mem.1)
    | found h' hp' =>
      cases hsame h h'
      rw [hp.unique hp']

/-- **A look-up in a container does what the replies decide.** -/
theorem find_resolves (process : String) (c : ContainerHandle) (w : World ρ) :
    c.Resolves process w.remote (find (.byType process) c w).1.resolution ∧
      ∃ made, w.Fetched (find (.byType process) c w).2.2 made ∧ PartFetches made := by
  obtain ⟨hlists, hfetched⟩ := c.lists_enumerate w
  have hfind : find (.byType process) c w =
      ((enumerate c w).1.map (·.find? (ProcessHandle.hasType process)), (enumerate c w).2) :=
    Action.bind_pure_apply _ _ c w
  rw [hfind]
  refine ⟨?_, hfetched⟩
  generalize (enumerate c w).1 = o at hlists ⊢
  cases o with
  | failed e => exact .unreadable hlists
  | waiting => exact .unanswered hlists
  | done ps =>
    have hdone : (Outcome.done ps : Outcome ClientError _).map (·.find? (ProcessHandle.hasType process)) =
        .done (ps.find? (ProcessHandle.hasType process)) := rfl
    rw [hdone]
    cases hp : ps.find? (ProcessHandle.hasType process) with
    | none =>
      refine .noProcess hlists fun p hmem => ?_
      simpa [ProcessHandle.hasType_eq] using List.find?_eq_none.1 hp p hmem
    | some p =>
      refine .found hlists ?_
      have hfirst := find?_eq_some_iff_first.1 hp
      simpa [ProcessHandle.hasType_eq] using hfirst

end ContainerHandle

namespace SystemHandle

/-- What becomes of the containers of a system. -/
abbrev Lists (s : SystemHandle) (r : ρ) : Roll ContainerHandle → Prop :=
  ProcessGraph.Lists ContainerHandle.opening ContainerHandle.Reads s.containers (s.profile.map (·.containerIds)) r

/-- The fetches of all containers, unless they are kept. -/
def containerFetches (s : SystemHandle) : List Request :=
  fetchesOf ContainerHandle.opening s.containers (s.profile.map (·.containerIds))

theorem lists_enumerate (s : SystemHandle) (w : World ρ) :
    s.Lists w.remote (enumerate s w).1.roll ∧ ∃ made, w.Fetched (enumerate s w).2.2 made ∧ PartFetches made ∧
      ∀ cs, (enumerate s w).1 = .done cs → made = s.containerFetches := by
  have hsome : ∀ s : SystemHandle, ∀ ids, s.profile.map (·.containerIds) = some ids →
      s.containerIds?.map (·.map ContainerHandle.opening) = .ok (ids.map ContainerHandle.opening) := by
    intro s ids hids
    rw [containerIds?_eq_ok_iff.2 (Option.map_eq_some_iff.1 hids)]
    rfl
  have hnone : ∀ s : SystemHandle, s.profile.map (·.containerIds) = none →
      ∃ e, s.containerIds?.map (·.map ContainerHandle.opening) = .error e := by
    intro s hids
    rw [containerIds?, profile?, Option.map_eq_none_iff.1 hids]
    exact ⟨_, rfl⟩
  exact lists_remember ContainerHandle.opening_finish_eq_ok_iff enumerate_eq hsome hnone s w

/-- What becomes of a process that is looked for in a system: it is looked for in the first container of a type, in
profile order, and in no other one. -/
inductive Resolves (container process : String) (s : SystemHandle) (r : ρ) : Resolution → Prop where
  | unreadable (h : s.Lists r .unreadable) : Resolves container process s r .unreadable
  | unanswered (h : s.Lists r .unanswered) : Resolves container process s r .unanswered
  | noContainer {cs : List ContainerHandle} (h : s.Lists r (.all cs))
      (hnone : ∀ c ∈ cs, c.cachedType ≠ some container) : Resolves container process s r .noContainer
  | entered {cs : List ContainerHandle} {c : ContainerHandle} {resolution : Resolution} (h : s.Lists r (.all cs))
      (hc : First (·.cachedType = some container) cs c)
      (hprocess : c.Resolves process (Remote.after r s.containerFetches) resolution) :
      Resolves container process s r resolution

/-- **The replies decide what becomes of the process.** -/
theorem Resolves.unique {container process : String} {s : SystemHandle} {r : ρ} {a b : Resolution}
    (ha : Resolves container process s r a) (hb : Resolves container process s r b) : a = b := by
  have hsame : ∀ {x y}, s.Lists r x → s.Lists r y → x = y := fun hx hy =>
    hx.unique ContainerHandle.reads_unique hy
  cases ha with
  | unreadable h => cases hb with
    | unreadable => rfl
    | unanswered h' | noContainer h' | entered h' => cases hsame h h'
  | unanswered h => cases hb with
    | unanswered => rfl
    | unreadable h' | noContainer h' | entered h' => cases hsame h h'
  | noContainer h hnone => cases hb with
    | noContainer => rfl
    | unreadable h' | unanswered h' => cases hsame h h'
    | entered h' hc =>
      cases hsame h h'
      exact absurd hc.mem.2 (hnone _ hc.mem.1)
  | entered h hc hprocess => cases hb with
    | unreadable h' | unanswered h' => cases hsame h h'
    | noContainer h' hnone =>
      cases hsame h h'
      exact absurd hc.mem.2 (hnone _ hc.mem.1)
    | entered h' hc' hprocess' =>
      cases hsame h h'
      obtain rfl := hc.unique hc'
      exact hprocess.unique hprocess'

end SystemHandle

/-! ## the command that resolves -/

namespace Command

/-- How a command ends its search. -/
inductive Ends (container process : String) : Resolution → Outcome Error ProcessHandle → Prop where
  | found {p : ProcessHandle} : Ends container process (.found p) (.done p)
  | noContainer : Ends container process .noContainer (.failed (.noContainer container))
  | noProcess : Ends container process .noProcess (.failed (.noProcess container process))
  | unreadable {e : ClientError} : Ends container process .unreadable (.failed (.client e))
  | unanswered : Ends container process .unanswered .waiting

variable {container : String} {s t : SystemHandle} {w v : World ρ} {cs : List ContainerHandle} {c : ContainerHandle}

/-- The first step of a search is the enumeration of the containers. -/
theorem resolve_apply (container process : String) (s : SystemHandle) (w : World ρ) :
    resolve container process s w = match SystemHandle.enumerate s w with
      | (.done cs, t, v) => match cs.findIdx? (ContainerHandle.hasType container) with
        | none => (.failed (.noContainer container), t, v)
        | some i => (do
          match ← onContainer (.noContainer container) i (ContainerHandle.find (.byType process)) with
          | some p => return p
          | none => Action.fail (.noProcess container process) :
            Action ρ SystemHandle Error ProcessHandle) t v
      | (.failed e, t, v) => (.failed (.client e), t, v)
      | (.waiting, t, v) => (.waiting, t, v) := by
  rw [resolve, Action.bind_apply, onSystem, Action.mapError, SystemHandle.find_byType, Action.bind_pure_apply]
  rcases SystemHandle.enumerate s w with ⟨cs | e | _, t, v⟩
  · simp only [Outcome.map]
    cases cs.findIdx? (ContainerHandle.hasType container) <;> rfl
  · rfl
  · rfl

/-- A search goes on in the first container of its type, and ends as the look-up there does. -/
theorem resolve_of_container (process : String) (henumerate : SystemHandle.enumerate s w = (.done cs, t, v))
    (hc : cs.find? (ContainerHandle.hasType container) = some c) :
    Ends container process (ContainerHandle.find (.byType process) c v).1.resolution
        (resolve container process s w).1 ∧
      (resolve container process s w).2.2 = (ContainerHandle.find (.byType process) c v).2.2 := by
  rw [List.find?_eq_bind_findIdx?_getElem?] at hc
  obtain ⟨i, hi, hget⟩ := Option.bind_eq_some_iff.1 hc
  have hkept : t.containers = some cs := by
    have hcommits := SystemHandle.enumerate_commits s w
    rw [henumerate] at hcommits
    cases hcommits with
    | done h => rw [h.2]
  rw [resolve_apply, henumerate]
  simp only [hi]
  rw [Action.bind_apply, onContainer, Action.bind_apply, onSystem, Action.mapError,
    SystemHandle.onContainer_apply _ hkept hget]
  rcases ContainerHandle.find (.byType process) c v with ⟨(_ | p) | e | _, d, u⟩
  · exact ⟨.noProcess, rfl⟩
  · exact ⟨.found, rfl⟩
  · exact ⟨.unreadable, rfl⟩
  · exact ⟨.unanswered, rfl⟩

/-- **A command resolves a process as the replies decide**, and all that it does is fetch profiles of containers and
processes. -/
theorem resolve_resolves (container process : String) (s : SystemHandle) (w : World ρ) :
    ∃ resolution made, s.Resolves container process w.remote resolution ∧
      Ends container process resolution (resolve container process s w).1 ∧
      w.Fetched (resolve container process s w).2.2 made ∧ PartFetches made := by
  obtain ⟨hlists, made, hfetched, hparts, hmade⟩ := s.lists_enumerate w
  rcases henumerate : SystemHandle.enumerate s w with ⟨cs | e | _, t, v⟩
  · rw [henumerate] at hlists hfetched hmade
    obtain rfl := hmade cs rfl
    cases hc : cs.find? (ContainerHandle.hasType container) with
    | none =>
      have hposition : cs.findIdx? (ContainerHandle.hasType container) = none := by
        simpa [List.findIdx?_eq_none_iff] using hc
      rw [resolve_apply, henumerate]
      simp only [hposition]
      refine ⟨.noContainer, _, .noContainer hlists fun c hmem => ?_, .noContainer, hfetched, hparts⟩
      simpa [ContainerHandle.hasType_eq] using List.find?_eq_none.1 hc c hmem
    | some c =>
      have hfirst : First (·.cachedType = some container) cs c := by
        have h := find?_eq_some_iff_first.1 hc
        simpa [ContainerHandle.hasType_eq] using h
      obtain ⟨hresolves, made', hfetched', hparts'⟩ := c.find_resolves process v
      rw [hfetched.remote] at hresolves
      obtain ⟨hends, hworld⟩ := resolve_of_container process henumerate hc
      rw [hworld]
      exact ⟨_, _, .entered hlists hfirst hresolves, hends, hfetched.trans hfetched', hparts.append hparts'⟩
  · rw [resolve_apply, henumerate]
    rw [henumerate] at hlists hfetched
    exact ⟨.unreadable, made, .unreadable hlists, .unreadable, hfetched, hparts⟩
  · rw [resolve_apply, henumerate]
    rw [henumerate] at hlists hfetched
    exact ⟨.unanswered, made, .unanswered hlists, .unanswered, hfetched, hparts⟩

end Command

end ProcessGraph
