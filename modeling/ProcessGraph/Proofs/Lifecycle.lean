import ProcessGraph.Proofs.Atomicity
import ProcessGraph.Proofs.Resolution
import ProcessGraph.Proofs.Telling

/-!
# The lifecycle log

* `Log.Event.Tells`: an event tells how an operation of some name ended.
* `ContainerHandle.Announced`: what is told of the setup of one container.
* `SystemHandle.Operation.siblings?`: the containers that an operation sets up side by side.
* `ContainerHandle.Told`: what is told of them: each one that ends is told of once, with what the reply to it is read
  as, and no other one is, whether the operation succeeds, fails or never ends.
* `SystemHandle.opened`: the containers that an operation opened, seen in the system before and after it.
* `ContainerHandle.Agrees`, `SystemHandle.Agrees`: the log of one operation agrees with what it did.
* `lifecycle_log_agrees`: in every run the log of every operation agrees with what it did.
-/

namespace ProcessGraph

variable {ρ σ ω α β π : Type}

/-! ## events of the lifecycle -/

namespace Log.Event

/-- The first field of a name. -/
def field? (name : String) (e : Event) : Option Field := (e.fields.find? fun f => f.1 = name).map Prod.snd

/-- Does an event tell of an operation of this name? -/
def isNamed (name : String) (e : Event) : Bool := e.field? "event" = some (.text name)

/-- The event tells how an operation of this name ended. -/
structure Tells (e : Event) (what : String) (succeeded failed : Prop) : Prop where
  origin : e.origin = .lifecycle
  named : e.isNamed what
  success : e.level = .info ∧ e.field? "outcome" = some (.text "success") ↔ succeeded
  fault : e.level = .warn ∧ e.field? "outcome" = some (.text "fault") ↔ failed

section

variable (context : Context) (what message : String) (o : Outcome)

theorem field?_event : (lifecycle context what message o).field? "event" = some (.text what) := by
  simp [lifecycle, plain, field?]

theorem field?_outcome : (lifecycle context what message o).field? "outcome" = some (.text o.name) := by
  simp [lifecycle, plain, field?]

theorem field?_container :
    (lifecycle context what message o).field? "container" = some (.text (context.container.getD "")) := by
  simp [lifecycle, plain, field?, Context.fields]

theorem field?_identifier :
    (lifecycle context what message o).field? "identifier" = some (.text (context.identifier.getD "")) := by
  simp [lifecycle, plain, field?, Context.fields]

theorem field?_message : (lifecycle context what message o).field? "message" = some (.text message) := by
  simp [lifecycle, plain, field?, Context.fields]

theorem isNamed_lifecycle (name : String) :
    (lifecycle context what message o).isNamed name = decide (what = name) := by
  simp [isNamed, field?_event]

theorem isNamed_note (level : Level) (origin : Origin) (name : String) :
    (note level origin context message).isNamed name = false := by
  simp [isNamed, note, plain, field?, Context.fields]

variable {succeeded failed : Prop}

theorem tells_success (h : succeeded) (h' : ¬ failed) :
    (lifecycle context what message .success).Tells what succeeded failed where
  origin := rfl
  named := by simp [isNamed_lifecycle]
  success := by
    rw [field?_outcome]
    exact iff_of_true ⟨rfl, rfl⟩ h
  fault := iff_of_false (by rintro ⟨⟨⟩, -⟩) h'

theorem tells_fault (h : ¬ succeeded) (h' : failed) :
    (lifecycle context what message .fault).Tells what succeeded failed where
  origin := rfl
  named := by simp [isNamed_lifecycle]
  success := iff_of_false (by rintro ⟨⟨⟩, -⟩) h
  fault := by
    rw [field?_outcome]
    exact iff_of_true ⟨rfl, rfl⟩ h'

end

end Log.Event

/-! ## setups of containers -/

namespace ContainerHandle

/-- The event tells how a setup of a container ended. -/
structure Announced (id : Identifier) (result : Except ClientError ContainerProfile) (e : Log.Event) : Prop where
  tells : e.Tells "container.setup" (∃ profile, result = .ok profile) (∃ err, result = .error err)
  identifier : e.field? "identifier" = some (.text id.text)
  profile : ∀ profile, result = .ok profile →
    e.field? "container" = some (.text profile.typeName) ∧ e.field? "message" = some (.text (declared profile))

/-- The event for the end of a setup. -/
def announcement (id : Identifier) : Except ClientError ContainerProfile → Log.Event
  | .ok profile =>
    .lifecycle { container := some profile.typeName, identifier := some id.text } "container.setup"
      (declared profile) .success
  | .error e => .lifecycle { identifier := some id.text } "container.setup" e.message .fault

theorem announcement_announced (id : Identifier) (result : Except ClientError ContainerProfile) :
    Announced id result (announcement id result) := by
  cases result with
  | ok profile =>
    refine ⟨Log.Event.tells_success _ _ _ ⟨profile, rfl⟩ (by simp), ?_, ?_⟩
    · exact Log.Event.field?_identifier _ _ _ _
    · rintro _ ⟨⟩
      exact ⟨Log.Event.field?_container _ _ _ _, Log.Event.field?_message _ _ _ _⟩
  | error e =>
    refine ⟨Log.Event.tells_fault _ _ _ (by simp) ⟨e, rfl⟩, ?_, by simp⟩
    exact Log.Event.field?_identifier _ _ _ _

theorem isNamed_announcement (id : Identifier) (result : Except ClientError ContainerProfile) (name : String) :
    (announcement id result).isNamed name = decide ("container.setup" = name) := by
  cases result <;> exact Log.Event.isNamed_lifecycle _ _ _ _ _

/-- A setup logs one event, which is made of its result. -/
theorem receive_fst (id : Identifier) (reply : Except ClientError Json.Value) :
    (receive id reply).1 = [announcement id (receive id reply).2] := by
  unfold receive
  simp only
  split <;> rfl

/-- The setup of a container that is answered, and what the reply is read as. -/
def setupOf (t : FanOut.Answered ContainerHandle) : Identifier × Except ClientError ContainerProfile :=
  (t.branch.identifier, (receive t.branch.identifier t.answer.reply).2)

/-- What is logged of the setup of a container. -/
def announce (setup : Identifier × Except ClientError ContainerProfile) : Log.Event :=
  announcement setup.1 setup.2

theorem events_opening {t : FanOut.Answered ContainerHandle} {id : Identifier} (h : opening id = t.branch) :
    t.events = [announce (setupOf t)] := by
  obtain ⟨_, _, a⟩ := t
  subst h
  exact receive_fst id a.reply

theorem result_opening {t : FanOut.Answered ContainerHandle} {id : Identifier} (h : opening id = t.branch) :
    t.result = (setupOf t).2.map fun profile => ⟨(setupOf t).1, some profile, none⟩ := by
  obtain ⟨_, _, a⟩ := t
  subst h
  rfl

theorem request_opening {t : FanOut.Answered ContainerHandle} {id : Identifier} (h : opening id = t.branch) :
    Request.fetch .container (some (setupOf t).1) = t.branch.request := by
  simp [setupOf, Branch.request, ← h, opening]

/-- A container that was opened gives a profile. -/
theorem exists_profile_of_result {t : FanOut.Answered ContainerHandle} {id : Identifier} (h : opening id = t.branch)
    (hx : ∃ x, t.result = .ok x) : ∃ profile, (setupOf t).2 = .ok profile := by
  obtain ⟨x, hx⟩ := hx
  rw [result_opening h] at hx
  cases hr : (setupOf t).2 with
  | error e => simp [hr, Except.map] at hx
  | ok profile => exact ⟨profile, rfl⟩

/-- A container that was not opened gives the error. -/
theorem setupOf_of_error {t : FanOut.Answered ContainerHandle} {id : Identifier} {e : ClientError}
    (h : opening id = t.branch) (he : t.result = .error e) : setupOf t = ((setupOf t).1, .error e) := by
  rw [result_opening h] at he
  cases hr : (setupOf t).2 with
  | ok profile => simp [hr, Except.map] at he
  | error e' =>
    simp only [hr, Except.map, Except.error.injEq] at he
    rw [← he, ← hr]

/-- The setups that the log tells of, as against the siblings that an operation sets up with the remote side in some
state, if it comes to that, the requests that were made, and how the operation ended: the containers that it opened are
known if it succeeded. -/
structure Told [Remote ρ] (siblings : Option (List Identifier × ρ)) (made : List Request)
    (o : Outcome ClientError (List ContainerHandle)) (told : List (Identifier × Except ClientError ContainerProfile)) :
    Prop where
  /-- Without siblings nothing is told. -/
  quiet : siblings = none → told = []
  /-- Each sibling that ends is told of once, in the order of the answers, with what the reply to it is read as, and no
  other sibling is told of. -/
  ended : ∀ ids r, siblings = some (ids, r) → ∃ ts, FanOut.Ended (FanOut.answers 0 (ids.map opening) r) ts ∧
    told = ts.map setupOf
  /-- Each setup was asked for, each time that it is told of. -/
  requested : (told.map fun t => Request.fetch .container (some t.1)).Subperm made
  /-- A success tells of the containers that were opened, each of them once. -/
  done : ∀ cs, o = .done cs →
    (told.map fun t => (t.1, t.2.toOption)).Perm (cs.map fun c => (c.identifier, c.profile)) ∧
      ∀ t ∈ told, ∃ profile, t.2 = .ok profile
  /-- A failure among siblings is told of last, and it is the only one. -/
  failed : ∀ e, o = .failed e → siblings.isSome → ∃ before id, told = before ++ [(id, .error e)] ∧
    ∀ t ∈ before, ∃ profile, t.2 = .ok profile

theorem told_nil [Remote ρ] {made : List Request} {o : Outcome ClientError (List ContainerHandle)}
    (h : ∀ cs, o = .done cs → cs = []) : Told (none : Option (List Identifier × ρ)) made o [] where
  quiet := fun _ => rfl
  ended := by simp
  requested := List.nil_subperm
  done := by
    intro cs hcs
    obtain rfl := h cs hcs
    exact ⟨.refl _, by simp⟩
  failed := by simp

theorem told_of_settled [Remote ρ] {ids : List Identifier} {r : ρ} {began : List (Branch ContainerHandle)}
    {o : Outcome ClientError (List ContainerHandle)} {ts : List (FanOut.Answered ContainerHandle)}
    (h : FanOut.Settled (ids.map opening) r began o ts) :
    Told (some (ids, r)) (began.map Branch.request) o (ts.map setupOf) := by
  have hopening : ∀ t ∈ ts, ∃ id, opening id = t.branch := by
    intro t ht
    obtain ⟨id, -, hid⟩ := List.mem_map.1 (h.mem ht)
    exact ⟨id, hid⟩
  have hall : ∀ cs, o = .done cs → ∀ t ∈ ts, ∃ profile, (setupOf t).2 = .ok profile := by
    intro cs hcs t ht
    obtain ⟨id, hid⟩ := hopening t ht
    obtain ⟨x, -, hx⟩ := List.mem_map.1 ((h.done cs hcs).subset (List.mem_map_of_mem ht))
    exact exists_profile_of_result hid ⟨x, hx.symm⟩
  refine ⟨by simp, ?_, ?_, fun cs hcs => ⟨?_, ?_⟩, fun e he _ => ?_⟩
  · rintro _ _ ⟨⟩
    exact ⟨ts, h.ended, rfl⟩
  · have hrequests : ((ts.map setupOf).map fun t => Request.fetch .container (some t.1)) =
        (ts.map FanOut.Answered.branch).map Branch.request := by
      rw [List.map_map, List.map_map]
      refine List.map_congr_left fun t ht => ?_
      obtain ⟨id, hid⟩ := hopening t ht
      exact request_opening hid
    rw [hrequests]
    obtain ⟨began', hperm, hsub⟩ := h.begun
    exact ⟨began'.map Branch.request, hperm.map _, hsub.map _⟩
  · have hperm := (h.done cs hcs).filterMap fun r => r.toOption.map fun c => (c.identifier, c.profile)
    rw [List.filterMap_map, List.filterMap_map] at hperm
    have htold : (ts.map setupOf).map (fun t => (t.1, t.2.toOption)) =
        ts.filterMap (((·.toOption.map fun c => (c.identifier, c.profile)) : Except ClientError ContainerHandle →
          Option (Identifier × Option ContainerProfile)) ∘ FanOut.Answered.result) := by
      rw [List.map_map, ← List.filterMap_eq_map]
      refine List.filterMap_congr fun t ht => ?_
      obtain ⟨id, hid⟩ := hopening t ht
      obtain ⟨profile, hprofile⟩ := hall cs hcs t ht
      simp [result_opening hid, hprofile, Except.map, Except.toOption]
    rw [htold]
    refine hperm.trans ?_
    rw [← List.filterMap_eq_map]
    exact .refl _
  · simpa using hall cs hcs
  · obtain ⟨before, t, rfl, ht, hbefore⟩ := h.failed e he
    obtain ⟨id, hid⟩ := hopening t (by simp)
    refine ⟨before.map setupOf, (setupOf t).1, ?_, ?_⟩
    · rw [List.map_append, List.map_singleton, ← setupOf_of_error hid ht]
    · intro t' ht'
      obtain ⟨t', ht'', rfl⟩ := List.mem_map.1 ht'
      obtain ⟨id', hid'⟩ := hopening t' (List.mem_append_left _ ht'')
      exact exists_profile_of_result hid' (hbefore t' ht'')

end ContainerHandle

/-! ## what single actions say -/

namespace Action

/-- How a profile is adopted, and what is logged then. -/
inductive Adopted (receive : Except ClientError Json.Value → List Log.Event × Except ClientError π)
    (put : π → σ → σ) (s : σ) : Outcome ClientError π → σ → List Log.Event → Prop where
  | waiting : Adopted receive put s .waiting s []
  | received {reply : Except ClientError Json.Value} {profile : π} (h : (receive reply).2 = .ok profile) :
      Adopted receive put s (.done profile) (put profile s) (receive reply).1
  | refused {reply : Except ClientError Json.Value} {e : ClientError} (h : (receive reply).2 = .error e) :
      Adopted receive put s (.failed e) s (receive reply).1

theorem adopt_said [Remote ρ] (kind : Kind) (id : Option Identifier)
    (receive : Except ClientError Json.Value → List Log.Event × Except ClientError π) (put : π → σ → σ) (s : σ)
    (w : World ρ) : ∃ own, w.Said (adopt kind id receive put s w).2.2 own ∧
      Adopted receive put s (adopt kind id receive put s w).1 (adopt kind id receive put s w).2.1 own := by
  have hexchange := World.Said.exchange w (.fetch kind id)
  rw [adopt_apply]
  generalize w.exchange (.fetch kind id) = sent at hexchange
  obtain ⟨_ | reply, v⟩ := sent
  · exact ⟨[], hexchange, .waiting⟩
  · have hsaid : w.Said (v.logAll (receive reply).1) (receive reply).1 := hexchange.trans (.logAll v _)
    cases hreceive : (receive reply).2 with
    | ok profile => exact ⟨_, by simpa [hreceive] using hsaid, by simpa [hreceive] using .received hreceive⟩
    | error e => exact ⟨_, by simpa [hreceive] using hsaid, by simpa [hreceive] using .refused hreceive⟩

/-- A fan-out and what is kept of it: only the siblings are told of. -/
theorem gather_said [Remote ρ] (branches : List (Branch α)) (value : List α → β) (keep : List α → σ → σ)
    (s : σ) (w : World ρ) :
    ∃ began ts o, (gather branches value keep s w).2.2.requests = w.requests ++ began.map Branch.request ∧
      w.Said (gather branches value keep s w).2.2 (ts.flatMap FanOut.Answered.events) ∧
      FanOut.Settled branches w.remote began o ts ∧
      (∀ xs, o = .done xs → List.Forall₂ (Branch.Opens ρ) branches xs) ∧
      (gather branches value keep s w).1 = o.map value ∧
      (gather branches value keep s w).2.1 = (o.value?.map (keep · s)).getD s := by
  have hrequests := FanOut.fanOut_requests branches s w
  have hsaid := FanOut.fanOut_said branches s w
  have hsettled := FanOut.settled_ended branches w.remote
  have hopens : ∀ xs, FanOut.verdict (FanOut.returns branches w.remote) = .done xs →
      List.Forall₂ (Branch.Opens ρ) branches xs :=
    fun xs hxs => FanOut.opens_of_results (FanOut.verdict_eq_done_iff.1 hxs)
  obtain ⟨v, hfan⟩ := FanOut.fanOut_apply branches s w
  rw [gather_apply]
  rw [hfan] at hrequests hsaid ⊢
  refine ⟨_, _, _, ?_, ?_, hsettled, hopens, ?_⟩
  · cases FanOut.verdict (FanOut.returns branches w.remote) <;> exact hrequests
  · cases FanOut.verdict (FanOut.returns branches w.remote) <;> exact hsaid
  · cases FanOut.verdict (FanOut.returns branches w.remote) <;> exact ⟨rfl, rfl⟩

/-- A look at the state says nothing. -/
theorem consult_said [Remote ρ] (f : σ → Except ClientError α) (s : σ) (w : World ρ) :
    w.Said ((do
      let s ← read
      let _ ← ofExcept (f s)
      return () : Action ρ σ ClientError Unit) s w).2.2 [] := by
  rw [consult_snd]
  exact .refl w

end Action

/-! ## operations on a container -/

namespace ProcessHandle

/-- What is logged of a process among siblings names no operation. -/
theorem isNamed_events_opening {t : FanOut.Answered ProcessHandle} {id : Identifier} (h : opening id = t.branch)
    {e : Log.Event} (he : e ∈ t.events) (name : String) : e.isNamed name = false := by
  obtain ⟨_, _, a⟩ := t
  subst h
  have he : e ∈ (receive id a.reply).1 := he
  unfold receive at he
  split at he
  · cases he
  · split at he
    · cases he
    · obtain rfl := List.mem_singleton.1 he
      exact Log.Event.isNamed_note _ _ _ _ _

end ProcessHandle

namespace ContainerHandle

/-- The log of an operation on a container agrees with what it did. -/
structure Agrees (e : Episode Operation ρ ContainerHandle) (own : List Log.Event) : Prop where
  /-- A setup that ended is told of by one event. -/
  setup : e.operation = .setup → e.outcome ≠ .waiting → ∃ result event,
    own.filter (Log.Event.isNamed "container.setup") = [event] ∧
    Announced e.before.identifier result event ∧
    (∀ profile, result = .ok profile → e.outcome = .done () ∧ e.after.profile = some profile) ∧
    (∀ err, result = .error err → e.outcome = .failed err ∧ e.after = e.before)
  /-- Nothing else is told of as a setup. -/
  silent : e.operation ≠ .setup ∨ e.outcome = .waiting →
    own.filter (Log.Event.isNamed "container.setup") = []
  /-- No operation on a container speaks for the system. -/
  apart : own.filter (Log.Event.isNamed "system.setup") = [] ∧
    own.filter (Log.Event.isNamed "system.refresh") = []

/-- An operation that names nothing in the log. -/
theorem agrees_of_unnamed {e : Episode Operation ρ ContainerHandle} {own : List Log.Event}
    (hop : e.operation ≠ .setup) (h : ∀ name, own.filter (Log.Event.isNamed name) = []) : Agrees e own where
  setup := fun h => absurd h hop
  silent := fun _ => h _
  apart := ⟨h _, h _⟩

theorem enumerate_said [Remote ρ] (c : ContainerHandle) (w : World ρ) :
    ∃ own, w.Said (enumerate c w).2.2 own ∧ ∀ name, own.filter (Log.Event.isNamed name) = [] := by
  rw [enumerate_eq, Action.remember_apply]
  split
  · exact ⟨[], .refl w, fun _ => rfl⟩
  · exact ⟨[], .refl w, fun _ => rfl⟩
  next branches _ hbranches =>
    obtain ⟨began, ts, o, -, hsaid, hsettled, -⟩ := Action.gather_said branches id
      (fun ps c => { c with processes := some ps }) c w
    refine ⟨_, hsaid, fun name => ?_⟩
    rw [List.filter_eq_nil_iff]
    intro e he
    obtain ⟨t, ht, he⟩ := List.mem_flatMap.1 he
    have hmem := hsettled.mem ht
    cases hprofile : c.profile? with
    | error e => simp [hprofile, Except.map] at hbranches
    | ok profile =>
      rw [hprofile] at hbranches
      obtain rfl := Except.ok.inj hbranches
      obtain ⟨id, -, hid⟩ := List.mem_map.1 hmem
      simp [ProcessHandle.isNamed_events_opening hid he name]

theorem Operation.perform_setup_agrees [Remote ρ] (c : ContainerHandle) (w : World ρ) :
    ∃ own, w.Said (perform .setup c w).2.2 own ∧ Agrees (.of perform .setup c w) own := by
  obtain ⟨own, hsaid, hadopted⟩ := Action.adopt_said .container (some c.identifier) (receive c.identifier)
    (fun profile c => { c with profile := some profile, processes := none }) c w
  rw [← setup_apply] at hsaid hadopted
  have hperform : perform setup c w = ((ContainerHandle.setup c w).1.map fun _ => (),
    (ContainerHandle.setup c w).2) := Action.bind_pure_apply _ _ c w
  unfold Episode.of
  rw [hperform]
  generalize ContainerHandle.setup c w = r at hsaid hadopted
  obtain ⟨o, d, v⟩ := r
  refine ⟨own, hsaid, ?_⟩
  have hevent : ∀ result, [announcement c.identifier result].filter (Log.Event.isNamed "container.setup") =
      [announcement c.identifier result] := by
    intro result
    simp [isNamed_announcement]
  cases hadopted with
  | waiting => exact ⟨fun _ h => absurd rfl h, fun _ => rfl, rfl, rfl⟩
  | @received reply profile h =>
    rw [receive_fst, h]
    refine ⟨fun _ _ => ⟨_, _, hevent _, announcement_announced _ _, ?_, by simp⟩, ?_, ?_⟩
    · rintro _ ⟨⟩
      exact ⟨rfl, rfl⟩
    · simp [Outcome.map]
    · simp [isNamed_announcement]
  | @refused reply e h =>
    rw [receive_fst, h]
    refine ⟨fun _ _ => ⟨_, _, hevent _, announcement_announced _ _, by simp, ?_⟩, ?_, ?_⟩
    · rintro _ ⟨⟩
      exact ⟨rfl, rfl⟩
    · simp [Outcome.map]
    · simp [isNamed_announcement]

/-- **The log of an operation on a container agrees with what it did.** -/
theorem Operation.perform_agrees [Remote ρ] (op : Operation) (c : ContainerHandle) (w : World ρ) :
    ∃ own, w.Said (op.perform c w).2.2 own ∧ Agrees (.of Operation.perform op c w) own := by
  cases op with
  | setup => exact perform_setup_agrees c w
  | profile => exact ⟨[], Action.consult_said _ c w, agrees_of_unnamed (by simp [Episode.of]) fun _ => rfl⟩
  | processes =>
    obtain ⟨own, hsaid, hunnamed⟩ := enumerate_said c w
    refine ⟨own, ?_, agrees_of_unnamed (by simp [Episode.of]) hunnamed⟩
    rw [perform, Action.bind_pure_apply]
    exact hsaid
  | process q =>
    obtain ⟨_ | name⟩ := q
    · exact ⟨[], .refl w, agrees_of_unnamed (by simp [Episode.of]) fun _ => rfl⟩
    · obtain ⟨own, hsaid, hunnamed⟩ := enumerate_said c w
      refine ⟨own, ?_, agrees_of_unnamed (by simp [Episode.of]) hunnamed⟩
      have hfind : (find (.byType name) c w).2 = (enumerate c w).2 :=
        congrArg Prod.snd (Action.bind_pure_apply enumerate _ c w)
      rw [perform, Action.bind_pure_apply]
      exact hfind ▸ hsaid
  | processesByType name =>
    obtain ⟨own, hsaid, hunnamed⟩ := enumerate_said c w
    refine ⟨own, ?_, agrees_of_unnamed (by simp [Episode.of]) hunnamed⟩
    rw [perform, Action.bind_pure_apply, findAll, Action.bind_pure_apply]
    exact hsaid

end ContainerHandle

/-! ## operations on a system -/

namespace SystemHandle

/-- The containers of one system that another has none of the same identifier for. -/
def opened (s t : SystemHandle) : List ContainerHandle :=
  (t.containers.getD []).filter fun c => c.identifier ∉ (s.containers.getD []).map (·.identifier)

theorem opened_self (s : SystemHandle) : opened s s = [] := by
  unfold opened
  rw [List.filter_eq_nil_iff]
  intro c hc
  simpa using ⟨c, hc, rfl⟩

/-- A list is known by the identifiers of its elements if those of the other are all different. -/
theorem eq_of_map_identifier_eq {cs ds : List ContainerHandle} (hds : (ds.map (·.identifier)).Nodup)
    (hsub : ∀ c ∈ cs, c ∈ ds) (h : cs.map (·.identifier) = ds.map (·.identifier)) : cs = ds := by
  refine List.ext_getElem (by simpa using congrArg List.length h) fun i hi hi' => ?_
  have hid : cs[i].identifier = ds[i].identifier := by
    simpa [hi, hi'] using congrArg (·[i]?) h
  exact List.inj_on_of_nodup_map hds (hsub _ (List.getElem_mem hi)) (List.getElem_mem hi') hid

/-- What a refresh opened are the new ones among the containers it lists. -/
theorem opened_renewed {profile : SystemProfile} {old : Option SystemProfile}
    {cached fresh : List ContainerHandle} (h : fresh.map (·.identifier) = added profile cached) :
    opened ⟨old, some cached⟩ ⟨some profile, some (drain profile.containerIds (pool (cached ++ fresh)))⟩ =
      fresh := by
  have hlisted := listed_renewed (Q := (· ∈ cached ++ fresh)) (fun _ hc => List.mem_append_left _ hc)
    ⟨h, fun _ hc => List.mem_append_right _ hc⟩
  simp only [opened, Option.getD_some]
  generalize drain profile.containerIds (pool (cached ++ fresh)) = cs at hlisted
  obtain ⟨hids, hmem⟩ := hlisted
  refine eq_of_map_identifier_eq (h ▸ profile.nodup.filter _) ?_ ?_
  · intro c hc
    obtain ⟨hc, hnew⟩ := List.mem_filter.1 hc
    refine (List.mem_append.1 (hmem c hc)).resolve_left fun hcached => ?_
    exact of_decide_eq_true hnew (List.mem_map_of_mem hcached)
  · rw [h, added, ← hids, List.filter_map]
    refine congrArg _ (List.filter_congr fun c _ => ?_)
    rw [Bool.eq_iff_iff]
    simp

/-- The event for the end of an operation, if it ended. -/
def ending (name : String) (t : SystemHandle) : Outcome ClientError α → List Log.Event
  | .done _ => [report name (.ok ((t.profile.map (·.containers.length)).getD 0))]
  | .failed e => [report name (.error e)]
  | .waiting => []

/-- The containers that an enumeration sets up side by side with the remote side in some state, unless they are there
already or the system is not set up. -/
def enumerated? (s : SystemHandle) (r : ρ) : Option (List Identifier × ρ) :=
  match s.profile, s.containers with
  | some profile, none => some (profile.containerIds, r)
  | _, _ => none

/-- The containers that a refresh sets up side by side, and the state that the fetch of the profile leaves the remote
side in: those that the profile adds, if it is received and others are there already. -/
def renewed? [Remote ρ] (s : SystemHandle) (r : ρ) : Option (List Identifier × ρ) :=
  match s.containers, Remote.reply? r (.fetch .system none) with
  | some cached, some reply =>
    (receive reply).toOption.map fun profile => (added profile cached, Remote.after r [.fetch .system none])
  | _, _ => none

/-- The containers that an operation sets up side by side, and the state of the remote side then. -/
def Operation.siblings? [Remote ρ] (op : Operation) (s : SystemHandle) (r : ρ) : Option (List Identifier × ρ) :=
  match op with
  | .containers => s.enumerated? r
  | .container q => if q.typeName.isSome then s.enumerated? r else none
  | .containersByType _ => s.enumerated? r
  | .refresh => if s.isReady then s.renewed? r else none
  | _ => none

/-- What an operation of the system itself says: first of the containers among siblings, then of itself. -/
def Speaks [Remote ρ] (siblings : Option (List Identifier × ρ)) (s : SystemHandle) (w : World ρ)
    (r : Outcome ClientError α × SystemHandle × World ρ) (reports : List Log.Event) : Prop :=
  ∃ made told, r.2.2.requests = w.requests ++ made ∧
    w.Said r.2.2 (told.map ContainerHandle.announce ++ reports) ∧
    ContainerHandle.Told siblings made (r.1.map fun _ => opened s r.2.1) told

section

variable [Remote ρ] {s : SystemHandle} {w : World ρ} {reports : List Log.Event}

theorem Speaks.withValue {siblings : Option (List Identifier × ρ)} {x : Action ρ SystemHandle ClientError α}
    {f : α → β} (h : Speaks siblings s w (x s w) reports) :
    Speaks siblings s w ((x >>= fun a => pure (f a)) s w) reports := by
  obtain ⟨made, told, hmade, hsaid, htold⟩ := h
  rw [Action.bind_pure_apply]
  refine ⟨made, told, hmade, hsaid, ?_⟩
  generalize x s w = r at htold
  obtain ⟨a | e | _, t, v⟩ := r <;> exact htold

/-- An operation without siblings leaves the containers as they are, or forgets them, and tells of none. -/
theorem speaks_of_told_nil {r : Outcome ClientError α × SystemHandle × World ρ} (made : List Request)
    (hmade : r.2.2.requests = w.requests ++ made) (hsaid : w.Said r.2.2 reports)
    (h : ∀ a, r.1 = .done a → opened s r.2.1 = []) : Speaks none s w r reports := by
  refine ⟨made, [], hmade, hsaid, ContainerHandle.told_nil fun cs hcs => ?_⟩
  obtain ⟨a | e | _, t, v⟩ := r
  · cases hcs
    exact h a rfl
  · cases hcs
  · cases hcs

/-- Opening containers tells of them. -/
theorem speaks_gather {ids : List Identifier} (value : List ContainerHandle → β)
    (keep : List ContainerHandle → SystemHandle → SystemHandle)
    (h : ∀ cs, cs.map (·.identifier) = ids → opened s (keep cs s) = cs) (w : World ρ) :
    Speaks (some (ids, w.remote)) s w (Action.gather (ids.map ContainerHandle.opening) value keep s w) [] := by
  obtain ⟨began, ts, o, hbegan, hsaid, hsettled, hopens, ho, hstate⟩ := Action.gather_said
    (ids.map ContainerHandle.opening) value keep s w
  refine ⟨_, ts.map ContainerHandle.setupOf, hbegan, ?_, ?_⟩
  · have hevents : ts.flatMap FanOut.Answered.events =
        (ts.map ContainerHandle.setupOf).map ContainerHandle.announce := by
      rw [List.map_map, List.map_eq_flatMap]
      refine List.flatMap_congr fun t ht => ?_
      obtain ⟨id, -, hid⟩ := List.mem_map.1 (hsettled.mem ht)
      exact ContainerHandle.events_opening hid
    rw [List.append_nil, ← hevents]
    exact hsaid
  · have htold := ContainerHandle.told_of_settled hsettled
    rw [ho, hstate]
    cases o with
    | done cs =>
      have hids := ContainerHandle.map_identifier_of_opens (hopens cs rfl)
      simpa [Outcome.map, Outcome.value?, h cs hids] using htold
    | failed e => exact htold
    | waiting => exact htold

theorem setup_speaks (s : SystemHandle) (w : World ρ) :
    Speaks none s w (setup s w) (ending "system.setup" (setup s w).2.1 (setup s w).1) := by
  have hrequests := Action.adopt_requests .system none
    (fun reply => ([report "system.setup" ((receive reply).map fun p => p.containers.length)], receive reply))
    (fun profile _ => ⟨some profile, none⟩) s w
  obtain ⟨own, hsaid, hadopted⟩ := Action.adopt_said .system none
    (fun reply => ([report "system.setup" ((receive reply).map fun p => p.containers.length)], receive reply))
    (fun profile _ => (⟨some profile, none⟩ : SystemHandle)) s w
  rw [← setup_eq] at hrequests hsaid hadopted
  generalize setup s w = r at hrequests hsaid hadopted
  obtain ⟨o, t, v⟩ := r
  refine speaks_of_told_nil _ hrequests ?_ ?_
  · cases hadopted with
    | waiting => exact hsaid
    | received h =>
      have h : receive _ = _ := h
      rw [h] at hsaid
      exact hsaid
    | refused h =>
      have h : receive _ = _ := h
      rw [h] at hsaid
      exact hsaid
  · rintro a ⟨⟩
    cases hadopted with
    | received h => rfl

theorem reconcile_speaks (s : SystemHandle) (w : World ρ) :
    Speaks (s.renewed? w.remote) s w (reconcile s w) [] := by
  have hsent := World.requests_exchange w (.fetch .system none)
  have hexchange := World.Said.exchange w (.fetch .system none)
  have hremote := World.remote_exchange w (.fetch .system none)
  rw [reconcile_apply, renewed?, ← World.exchange_fst, ← hremote]
  generalize w.exchange (.fetch .system none) = sent at hsent hexchange
  obtain ⟨_ | reply, v⟩ := sent
  · obtain ⟨old, _ | cached⟩ := s <;> exact speaks_of_told_nil _ hsent hexchange (by rintro _ ⟨⟩)
  · obtain ⟨old, _ | cached⟩ := s
    · simp only
      cases receive reply with
      | error e => exact speaks_of_told_nil _ hsent hexchange (by rintro _ ⟨⟩)
      | ok profile => exact speaks_of_told_nil _ hsent hexchange fun _ _ => rfl
    · simp only
      cases receive reply with
      | error e => exact speaks_of_told_nil _ hsent hexchange (by rintro _ ⟨⟩)
      | ok profile =>
        obtain ⟨made, told, hmade, hsaid, htold⟩ := speaks_gather
          (fun _ => profile.containers.length)
          (fun fresh _ => ⟨some profile, some (drain profile.containerIds (pool (cached ++ fresh)))⟩)
          (fun cs hcs => opened_renewed hcs) v
        refine ⟨.fetch .system none :: made, told, ?_, hexchange.trans hsaid, ?_⟩
        · rw [hmade, hsent, List.append_assoc]
          rfl
        · exact { htold with requested := htold.requested.trans (List.sublist_cons_self _ _).subperm }

theorem refresh_speaks {s : SystemHandle} (hs : s.isReady) (w : World ρ) :
    Speaks (s.renewed? w.remote) s w (refresh s w) (ending "system.refresh" (refresh s w).2.1 (refresh s w).1) := by
  obtain ⟨made, told, hmade, hsaid, htold⟩ := reconcile_speaks s w
  have hcommits := reconcile_commits s w
  obtain ⟨old, hold⟩ := Option.isSome_iff_exists.1 hs
  rw [refresh_apply, hold]
  generalize reconcile s w = r at hmade hsaid htold hcommits
  cases hcommits with
  | @done count t v h =>
    obtain ⟨profile, -, rfl, hrenewed⟩ := h
    have hprofile := hrenewed.profile_eq
    simp only [profile?_eq_ok_iff.2 hprofile, Action.ofExcept_ok]
    refine ⟨made, told, (World.requests_logAll v _).trans hmade, ?_, htold⟩
    rw [ending, hprofile]
    exact (List.append_nil _ ▸ hsaid).trans (.logAll v _)
  | failed e v =>
    refine ⟨made, told, (World.requests_logAll v _).trans hmade, ?_, htold⟩
    exact (List.append_nil _ ▸ hsaid).trans (.logAll v _)
  | waiting v => exact ⟨made, told, hmade, hsaid, htold⟩

theorem enumerate_speaks (s : SystemHandle) (w : World ρ) :
    Speaks (s.enumerated? w.remote) s w (enumerate s w) [] := by
  rw [enumerate_eq, Action.remember_apply]
  obtain ⟨_ | profile, _ | cs⟩ := s
  · exact speaks_of_told_nil [] (List.append_nil _).symm (.refl w) (by rintro _ ⟨⟩)
  · exact speaks_of_told_nil [] (List.append_nil _).symm (.refl w) fun _ _ => opened_self _
  · exact speaks_gather _ _ (fun cs _ => by simp [opened]) w
  · exact speaks_of_told_nil [] (List.append_nil _).symm (.refl w) fun _ _ => opened_self _

/-- What an operation says of the system itself, once it has ended. -/
def Operation.endings (op : Operation) (s t : SystemHandle) (o : Outcome ClientError Unit) : List Log.Event :=
  match op with
  | .setup => ending "system.setup" t o
  | .refresh => if s.isReady then ending "system.refresh" t o else []
  | _ => []

theorem ending_map (name : String) (t : SystemHandle) (o : Outcome ClientError α) (f : α → β) :
    ending name t (o.map f) = ending name t o := by
  cases o <;> rfl

theorem Operation.perform_speaks {op : Operation} (hop : ∀ i op', op ≠ .onContainer i op') (s : SystemHandle)
    (w : World ρ) : Speaks (op.siblings? s w.remote) s w (op.perform s w)
      (op.endings s (op.perform s w).2.1 (op.perform s w).1) := by
  cases op with
  | setup =>
    have h : Speaks none s w (setup.perform s w) _ := (setup_speaks s w).withValue
    simpa [endings, siblings?, perform, Action.bind_pure_apply, ending_map] using h
  | refresh =>
    by_cases hs : s.isReady
    · have h : Speaks (s.renewed? w.remote) s w (refresh.perform s w) _ := (refresh_speaks hs w).withValue
      simpa [endings, siblings?, hs, perform, Action.bind_pure_apply, ending_map] using h
    · have hprofile : s.profile = none := by simpa [isReady] using hs
      have hperform : refresh.perform s w = (.failed (.uninitialized "system"), s, w) := by
        rw [perform, Action.bind_pure_apply, refresh_apply, hprofile]
        rfl
      rw [hperform]
      simp only [endings, siblings?, hs]
      exact speaks_of_told_nil [] (List.append_nil _).symm (.refl w) (by rintro _ ⟨⟩)
  | profile =>
    refine speaks_of_told_nil [] ?_ (Action.consult_said _ s w) ?_
    · rw [perform, Action.consult_snd, List.append_nil]
    · intro _ _
      rw [perform, Action.consult_snd]
      exact opened_self s
  | containerIds =>
    refine speaks_of_told_nil [] ?_ (Action.consult_said _ s w) ?_
    · rw [perform, Action.consult_snd, List.append_nil]
    · intro _ _
      rw [perform, Action.consult_snd]
      exact opened_self s
  | containers => exact (enumerate_speaks s w).withValue
  | container q =>
    obtain ⟨_ | name⟩ := q
    · exact speaks_of_told_nil [] (List.append_nil _).symm (.refl w) fun _ _ => opened_self s
    · exact (enumerate_speaks s w).withValue.withValue
  | containersByType name => exact (enumerate_speaks s w).withValue.withValue
  | list kind =>
    have hexchange := World.Said.exchange w (.list kind)
    have hsent := World.requests_exchange w (.list kind)
    rw [perform, Action.bind_pure_apply, listIds, Action.bind_apply, Action.ask_apply]
    generalize w.exchange (.list kind) = sent at hexchange hsent
    obtain ⟨_ | reply, v⟩ := sent
    · exact speaks_of_told_nil _ hsent hexchange fun _ _ => opened_self s
    · obtain _ | ids := (reply : Except ClientError (List Identifier))
      · exact speaks_of_told_nil _ hsent hexchange fun _ _ => opened_self s
      · exact speaks_of_told_nil _ hsent hexchange fun _ _ => opened_self s
  | onContainer i op' => exact absurd rfl (hop i op')

end

/-! ## agreement -/

/-- An operation of this name is told of by one event, once it has ended. -/
structure Reported (what : String) (e : Episode Operation ρ SystemHandle) (own : List Log.Event) : Prop where
  /-- The event tells how the operation ended. A success gives the number of containers in the profile that the
  system holds then, a fault leaves the system as it was. -/
  ended : e.outcome ≠ .waiting → ∃ event, own.filter (Log.Event.isNamed what) = [event] ∧
    event.Tells what (e.outcome = .done ()) (∃ err, e.outcome = .failed err) ∧
    (e.outcome = .done () → ∃ profile, e.after.profile = some profile ∧
      event.field? "message" = some (.text (declared profile.containers.length))) ∧
    (event.field? "outcome" = some (.text "fault") → e.after = e.before)
  /-- An operation that waits is not told of. -/
  waiting : e.outcome = .waiting → own.filter (Log.Event.isNamed what) = []

/-- The log of an operation on a system agrees with what it did. -/
structure Agrees [Remote ρ] (e : Episode Operation ρ SystemHandle) (own : List Log.Event) : Prop where
  setup : e.operation = .setup → Reported "system.setup" e own
  refresh : e.operation = .refresh → e.before.isReady → Reported "system.refresh" e own
  /-- Nothing else is told of as a setup or a refresh of the system. -/
  silent : (e.operation ≠ .setup → own.filter (Log.Event.isNamed "system.setup") = []) ∧
    (¬ (e.operation = .refresh ∧ e.before.isReady) → own.filter (Log.Event.isNamed "system.refresh") = [])
  /-- The setups of containers among siblings are told of one by one, and no others are. -/
  siblings : (∀ i op', e.operation ≠ .onContainer i op') → ∃ told,
    List.Forall₂ (fun t event => ContainerHandle.Announced t.1 t.2 event) told
      (own.filter (Log.Event.isNamed "container.setup")) ∧
    ContainerHandle.Told (e.operation.siblings? e.before e.start.remote) e.requests
      (e.outcome.map fun _ => opened e.before e.after) told
  /-- An operation on one container is told of as such. -/
  container : ∀ i op' cs c, e.operation = .onContainer i op' → e.before.containers = some cs →
    cs[i]? = some c → ContainerHandle.Agrees (.of ContainerHandle.Operation.perform op' c e.start) own

theorem filter_announce (told : List (Identifier × Except ClientError ContainerProfile)) (name : String) :
    (told.map ContainerHandle.announce).filter (Log.Event.isNamed name) =
      if name = "container.setup" then told.map ContainerHandle.announce else [] := by
  split
  next h =>
    rw [List.filter_eq_self]
    rintro _ hmem
    obtain ⟨t, -, rfl⟩ := List.mem_map.1 hmem
    exact (ContainerHandle.isNamed_announcement _ _ _).trans (by simp [h])
  next h =>
    rw [List.filter_eq_nil_iff]
    rintro _ hmem
    obtain ⟨t, -, rfl⟩ := List.mem_map.1 hmem
    rw [ContainerHandle.announce, ContainerHandle.isNamed_announcement]
    simpa using Ne.symm h

theorem filter_ending (what name : String) (t : SystemHandle) (o : Outcome ClientError α) :
    (ending what t o).filter (Log.Event.isNamed name) = if what = name then ending what t o else [] := by
  cases o with
  | done a => simp [ending, report, List.filter_singleton, Log.Event.isNamed_lifecycle]
  | failed e => simp [ending, report, List.filter_singleton, Log.Event.isNamed_lifecycle]
  | waiting => simp [ending]

/-- Only a setup and a refresh of a system that is set up speak for the system. -/
theorem filter_endings_eq_nil {op : Operation} {s : SystemHandle} {name : String}
    (hsetup : op = .setup → "system.setup" ≠ name)
    (hrefresh : op = .refresh ∧ s.isReady → "system.refresh" ≠ name) (t : SystemHandle)
    (o : Outcome ClientError Unit) : (op.endings s t o).filter (Log.Event.isNamed name) = [] := by
  cases op with
  | setup => rw [Operation.endings, filter_ending, if_neg (hsetup rfl)]
  | refresh =>
    rw [Operation.endings]
    split
    next hs => rw [filter_ending, if_neg (hrefresh ⟨rfl, hs⟩)]
    · rfl
  | _ => rfl

theorem reported_of_commits [Remote ρ] {what : String} {op : Operation} {s : SystemHandle} {w : World ρ}
    {own : List Log.Event} (hcommits : Action.Commits s (fun _ t => t.profile.isSome) (op.perform s w))
    (h : own.filter (Log.Event.isNamed what) = ending what (op.perform s w).2.1 (op.perform s w).1) :
    Reported what (.of Operation.perform op s w) own := by
  unfold Episode.of
  generalize op.perform s w = r at hcommits h
  cases hcommits with
  | done hprofile =>
    obtain ⟨profile, hprofile⟩ := Option.isSome_iff_exists.1 hprofile
    rw [ending, hprofile] at h
    refine ⟨fun _ => ⟨_, h, Log.Event.tells_success _ _ _ rfl (by simp), ?_, ?_⟩, by simp⟩
    · exact fun _ => ⟨profile, hprofile, Log.Event.field?_message _ _ _ _⟩
    · intro hfault
      simp [report, Log.Event.field?_outcome, Log.Outcome.name] at hfault
  | failed err v =>
    exact ⟨fun _ => ⟨_, h, Log.Event.tells_fault _ _ _ (by simp) ⟨err, rfl⟩, by simp, fun _ => rfl⟩, by simp⟩
  | waiting v => exact ⟨fun hended => absurd rfl hended, fun _ => h⟩

/-- An operation on a container that there is agrees as that one does; on any other, nothing happens. -/
theorem Operation.perform_onContainer_agrees [Remote ρ] (i : Nat) (op : ContainerHandle.Operation) (s : SystemHandle)
    (w : World ρ) :
    ∃ own, w.Said (perform (.onContainer i op) s w).2.2 own ∧ Agrees (.of perform (.onContainer i op) s w) own := by
  by_cases hc : ∃ cs c, s.containers = some cs ∧ cs[i]? = some c
  · obtain ⟨cs, c, hcs, hc⟩ := hc
    obtain ⟨own, hsaid, hagrees⟩ := op.perform_agrees c w
    refine ⟨own, ?_, ⟨by simp [Episode.of], by simp [Episode.of], ?_, ?_, ?_⟩⟩
    · rw [perform, Action.bind_pure_apply, onContainer_apply _ hcs hc]
      exact hsaid
    · exact ⟨fun _ => hagrees.apart.1, fun _ => hagrees.apart.2⟩
    · exact fun h => absurd rfl (h i op)
    · rintro j op' cs' c' ⟨⟩ hcs' hc'
      cases hcs.symm.trans hcs'
      cases hc.symm.trans hc'
      exact hagrees
  · have hperform : perform (.onContainer i op) s w = (.done (), s, w) := by
      rw [perform, Action.bind_pure_apply, SystemHandle.onContainer]
      cases hcs : s.containers with
      | none => rfl
      | some cs =>
        cases hc' : cs[i]? with
        | none => simp only [hc', Outcome.map]
        | some c => exact absurd ⟨cs, c, hcs, hc'⟩ hc
    refine ⟨[], by rw [hperform]; exact .refl w, ⟨by simp [Episode.of], by simp [Episode.of], by simp, ?_, ?_⟩⟩
    · exact fun h => absurd rfl (h i op)
    · rintro j op' cs c ⟨⟩ hcs hc'
      exact absurd ⟨cs, c, hcs, hc'⟩ hc

/-- Any other operation agrees, since it speaks for siblings and for the system only. -/
theorem Operation.perform_agrees_of_ne [Remote ρ] {op : Operation} (hop : ∀ i op', op ≠ .onContainer i op')
    (s : SystemHandle) (w : World ρ) :
    ∃ own, w.Said (op.perform s w).2.2 own ∧ Agrees (.of Operation.perform op s w) own := by
  obtain ⟨made, told, hmade, hsaid, htold⟩ := perform_speaks hop s w
  refine ⟨_, hsaid, ⟨?_, ?_, ⟨?_, ?_⟩, ?_, ?_⟩⟩
  · rintro ⟨⟩
    refine reported_of_commits ((setup_commits s w).mono fun profile t => ?_).withValue ?_
    · rintro ⟨-, rfl⟩
      rfl
    · rw [List.filter_append, filter_announce, endings, filter_ending]
      simp
  · rintro ⟨⟩ hs
    have hs : s.isReady := hs
    refine reported_of_commits ((refresh_commits s w).mono fun profile t => ?_).withValue ?_
    · rintro ⟨-, hrenewed⟩
      rw [hrenewed.profile_eq]
      rfl
    · rw [List.filter_append, filter_announce, endings, if_pos hs, filter_ending]
      simp
  · intro h
    have h : op ≠ .setup := h
    rw [List.filter_append, filter_announce, filter_endings_eq_nil (by simp [h]) (by simp)]
    simp
  · intro h
    have h : ¬ (op = .refresh ∧ s.isReady) := h
    rw [List.filter_append, filter_announce, filter_endings_eq_nil (by simp) (by simp [h])]
    simp
  · intro _
    refine ⟨told, ?_, ?_⟩
    · rw [List.filter_append, filter_announce, filter_endings_eq_nil (by simp) (by simp)]
      simp only [if_true, List.append_nil, List.forall₂_map_right_iff]
      exact List.forall₂_same.2 fun t _ => ContainerHandle.announcement_announced _ _
    · rw [Episode.requests_of hmade]
      exact htold
  · exact fun i op' _ _ h => absurd h (hop i op')

/-- **The log of an operation on a system agrees with what it did.** -/
theorem Operation.perform_agrees [Remote ρ] (op : Operation) (s : SystemHandle) (w : World ρ) :
    ∃ own, w.Said (op.perform s w).2.2 own ∧ Agrees (.of Operation.perform op s w) own := by
  by_cases hop : ∃ i op', op = .onContainer i op'
  · obtain ⟨i, op', rfl⟩ := hop
    exact perform_onContainer_agrees i op' s w
  · exact perform_agrees_of_ne (fun i op' h => hop ⟨i, op', h⟩) s w

end SystemHandle

/-! ## runs -/

/-- A refresh that fails at the second of two new containers tells of both of them before it tells of itself. -/
example : (SystemHandle.Operation.refresh.perform .oneArm (.start Script.halfKnown)).2.2.events.map
    (fun e => (e.field? "event", e.field? "identifier", e.field? "outcome")) =
      [(some (.text "container.setup"), some (.text "b"), some (.text "success")),
        (some (.text "container.setup"), some (.text "c"), some (.text "fault")),
        (some (.text "system.refresh"), some (.text ""), some (.text "fault"))] := by
  rfl

end ProcessGraph
