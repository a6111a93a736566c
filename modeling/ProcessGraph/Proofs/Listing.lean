import ProcessGraph.Command.Listing
import ProcessGraph.Proofs.Calling

/-!
# What listings report

* `World.deeds`, `World.Did`: the requests and the lines of a world in their order, and those between two worlds.
* `Reached`: what becomes of siblings, by the replies to their fetches, and which fetches there are.
  `reached_remember`: what is remembered is reached so.
* `SystemHandle.Discovers`: what becomes of the containers of a system that is read first.
* `Command.Rows`: the containers one after the other, each with the fetches of its processes and then its line.
  `Command.Cut` tells how far they come.
* `Command.Entries`: the processes of the first container of a type, with their fetches and then their lines.
* `Command.Lists`: what a listing does, by the replies alone. `Command.Reports` tells that a command does this.
* `Command.listings_report`: the two commands report what is discovered.
-/

namespace ProcessGraph

variable {ρ σ ε α β : Type}

/-! ## requests and lines in their order -/

/-- The requests among some happenings. -/
def requestsOf (hs : List Happening) : List Request :=
  hs.filterMap fun
    | .request r => some r
    | _ => none

/-- The lines among some happenings. -/
def linesOf (hs : List Happening) : List String :=
  hs.filterMap fun
    | .line text => some text
    | _ => none

@[simp] theorem requestsOf_append (hs hs' : List Happening) :
    requestsOf (hs ++ hs') = requestsOf hs ++ requestsOf hs' :=
  List.filterMap_append

@[simp] theorem requestsOf_map_request (made : List Request) : requestsOf (made.map .request) = made := by
  simp [requestsOf, List.filterMap_map]

@[simp] theorem linesOf_append (hs hs' : List Happening) : linesOf (hs ++ hs') = linesOf hs ++ linesOf hs' :=
  List.filterMap_append

@[simp] theorem linesOf_map_request (made : List Request) : linesOf (made.map .request) = [] := by
  simp [linesOf, List.filterMap_map]

@[simp] theorem requestsOf_cons_line (text : String) (hs : List Happening) :
    requestsOf (.line text :: hs) = requestsOf hs := rfl

@[simp] theorem linesOf_cons_line (text : String) (hs : List Happening) :
    linesOf (.line text :: hs) = text :: linesOf hs := rfl

namespace World

/-- The requests made and the lines printed so far, the earliest first. What was logged is left out. -/
def deeds (w : World ρ) : List Happening :=
  w.history.filter fun
    | .event _ => false
    | _ => true

theorem deeds_record_line (w : World ρ) (text : String) : (w.record (.line text)).deeds = w.deeds ++ [.line text] := by
  simp [deeds, record]

/-- The lines among what was done are all lines. -/
theorem linesOf_deeds (w : World ρ) : linesOf w.deeds = w.lines := by
  rw [linesOf, deeds, List.filterMap_filter, lines]
  congr
  funext h
  cases h <;> rfl

variable [Remote ρ]

/-- Between two worlds, this was asked and printed, and nothing else was done to the remote side. -/
structure Did (w v : World ρ) (done : List Happening) : Prop where
  deeds : v.deeds = w.deeds ++ done
  remote : v.remote = Remote.after w.remote (requestsOf done)

namespace Did

variable {u v w : World ρ} {done done' : List Happening}

theorem refl (w : World ρ) : Did w w [] := ⟨(List.append_nil _).symm, rfl⟩

theorem trans (h : Did u v done) (h' : Did v w done') : Did u w (done ++ done') where
  deeds := by rw [h'.deeds, h.deeds, List.append_assoc]
  remote := by
    rw [h'.remote, h.remote, requestsOf_append, Remote.after, Remote.after, Remote.after, List.foldl_append]

/-- Requests alone leave the remote side as it is after them. -/
theorem remote_of_requests {made : List Request} (h : Did w v (made.map .request)) :
    v.remote = Remote.after w.remote made := by
  rw [h.remote, requestsOf_map_request]

theorem lines (h : Did w v done) : v.lines = w.lines ++ linesOf done := by
  rw [← linesOf_deeds, h.deeds, linesOf_append, linesOf_deeds]

theorem line (w : World ρ) (text : String) : Did w (w.record (.line text)) [.line text] :=
  ⟨w.deeds_record_line text, rfl⟩

end Did

/-- Requests, events and waits print nothing, and the requests are all that is done. -/
theorem onward_did : Onward fun w v : World ρ =>
    ∃ made, v.requests = w.requests ++ made ∧ w.Did v (made.map .request) where
  refl w := ⟨[], (List.append_nil _).symm, .refl w⟩
  trans := by
    rintro u v w ⟨made, hrequests, hdid⟩ ⟨made', hrequests', hdid'⟩
    refine ⟨made ++ made', by rw [hrequests', hrequests, List.append_assoc], ?_⟩
    rw [List.map_append]
    exact hdid.trans hdid'
  send w q := ⟨[q], requests_send w q, by simp [deeds, send], rfl⟩
  logAll w es := ⟨[], by simp, by simp [deeds, World.logAll, List.filter_map, Function.comp_def], rfl⟩
  advanceTo w moment := ⟨[], by simp, by simp [deeds, World.advanceTo], rfl⟩

/-- An action that changes the world by requests, events and waits does what its requests do. -/
theorem Did.of_leaves {x : Action ρ σ ε α} (hx : ∀ {R : World ρ → World ρ → Prop}, Onward R → x.Leaves R) {s : σ}
    {w : World ρ} {made : List Request} (hmade : (x s w).2.2.requests = w.requests ++ made) :
    w.Did (x s w).2.2 (made.map .request) := by
  obtain ⟨made', hrequests, hdid⟩ := hx onward_did s w
  obtain rfl := List.append_cancel_left (hmade.symm.trans hrequests)
  exact hdid

end World

/-! ## siblings with their profiles -/

section Siblings

variable {π : Type} {opening : Identifier → Branch α} {Reads : Identifier → Json.Value → α → Prop}
  {ofEntry : Identifier × π → α}

/-- What becomes of siblings, by the replies to their fetches, and which fetches there are: all of them if all
siblings were read, which are told by their identifiers and profiles; if not, the first ones at least. -/
inductive Reached [Remote ρ] (opening : Identifier → Branch α) (Reads : Identifier → Json.Value → α → Prop)
    (ofEntry : Identifier × π → α) (ids : List Identifier) (r : ρ) : Roll (Identifier × π) → List Request → Prop where
  | all {entries : List (Identifier × π)}
      (h : Gives Reads (ids.zip (FanOut.replies (ids.map opening) r)) (.all (entries.map ofEntry))) :
      Reached opening Reads ofEntry ids r (.all entries) (ids.map fun id => (opening id).request)
  | unreadable {made : List Request} (h : Gives Reads (ids.zip (FanOut.replies (ids.map opening) r)) .unreadable)
      (hmade : made <+: ids.map fun id => (opening id).request) :
      Reached opening Reads ofEntry ids r .unreadable made
  | unanswered {made : List Request} (h : Gives Reads (ids.zip (FanOut.replies (ids.map opening) r)) .unanswered)
      (hmade : made <+: ids.map fun id => (opening id).request) :
      Reached opening Reads ofEntry ids r .unanswered made

/-- How an action ends that gives siblings. -/
inductive Yields (ofEntry : Identifier × π → α) : Roll (Identifier × π) → Outcome ε (List α) → Prop where
  | all {entries : List (Identifier × π)} : Yields ofEntry (.all entries) (.done (entries.map ofEntry))
  | unreadable {e : ε} : Yields ofEntry .unreadable (.failed e)
  | unanswered : Yields ofEntry .unanswered .waiting

theorem Gives.exists_entries {answers : List (Identifier × Option (Except ClientError Json.Value))} {xs : List α}
    (hentry : ∀ id document x, Reads id document x → ∃ e, x = ofEntry e) (h : Gives Reads answers (.all xs)) :
    ∃ entries : List (Identifier × π), xs = entries.map ofEntry := by
  cases h with
  | all h =>
    induction h with
    | nil => exact ⟨[], rfl⟩
    | cons hx _ ih =>
      obtain ⟨document, -, hread⟩ := hx
      obtain ⟨e, rfl⟩ := hentry _ _ _ hread
      obtain ⟨entries, rfl⟩ := ih
      exact ⟨e :: entries, rfl⟩

variable [Remote ρ] {ids : List Identifier} {r : ρ}

/-- There are as many siblings as were listed. -/
theorem Reached.length_eq {entries : List (Identifier × π)} {made : List Request}
    (h : Reached opening Reads ofEntry ids r (.all entries) made) : entries.length = ids.length := by
  cases h with
  | all h =>
    cases h with
    | all h => simpa [FanOut.length_replies] using h.length_eq.symm

/-- No others are fetched than those that were listed, and in their order. -/
theorem Reached.isPrefix {roll : Roll (Identifier × π)} {made : List Request}
    (h : Reached opening Reads ofEntry ids r roll made) : made <+: ids.map fun id => (opening id).request := by
  cases h with
  | all => exact List.prefix_refl _
  | unreadable _ hmade | unanswered _ hmade => exact hmade

/-- **The replies decide what becomes of siblings**, and if all are read also which fetches there are. -/
theorem Reached.unique (hright : ∀ id document x y, Reads id document x → Reads id document y → x = y)
    (hinj : Function.Injective ofEntry) {a b : Roll (Identifier × π)} {made made' : List Request}
    (ha : Reached opening Reads ofEntry ids r a made) (hb : Reached opening Reads ofEntry ids r b made') :
    a = b ∧ ∀ entries, a = .all entries → made = made' := by
  cases ha with
  | all h => cases hb with
    | all h' =>
      have hentries := h.unique hright h'
      injection hentries with hentries
      rw [hinj.list_map hentries]
      exact ⟨rfl, fun _ _ => rfl⟩
    | unreadable h' | unanswered h' => cases h.unique hright h'
  | unreadable h => cases hb with
    | unreadable => exact ⟨rfl, by simp⟩
    | all h' | unanswered h' => cases h.unique hright h'
  | unanswered h => cases hb with
    | unanswered => exact ⟨rfl, by simp⟩
    | all h' | unreadable h' => cases h.unique hright h'

/-- **Siblings that are not kept yet are reached.** -/
theorem reached_remember
    (hreads : ∀ id reply x, ((opening id).finish reply).2 = .ok x ↔
      ∃ document, reply = .ok document ∧ Reads id document x)
    (hentry : ∀ id document x, Reads id document x → ∃ e, x = ofEntry e)
    {x : Action ρ σ ClientError (List α)} {kept : σ → Option (List α)}
    {siblings : σ → Except ClientError (List (Branch α))} {keep : List α → σ → σ}
    (hx : x = Action.remember kept siblings keep) {s : σ} (hkept : kept s = none)
    (hids : siblings s = .ok (ids.map opening)) (w : World ρ) :
    ∃ roll made, Reached opening Reads ofEntry ids w.remote roll made ∧ Yields ofEntry roll (x s w).1 ∧
      w.Did (x s w).2.2 (made.map .request) := by
  obtain ⟨made, hmade, hgathered, -⟩ := gathered_remember hreads hx hkept hids w
  have hgather : Action.remember kept siblings keep s w = Action.gather (ids.map opening) id keep s w := by
    rw [Action.remember_apply, hkept, hids]
  have hprefix : made <+: ids.map fun id => (opening id).request := by
    have hstarted := Action.gather_requests (ids.map opening) id keep s w
    rw [← hgather, ← hx] at hstarted
    obtain rfl := List.append_cancel_left (hmade.symm.trans hstarted)
    have htake := (List.take_prefix (FanOut.started (FanOut.returns (ids.map opening) w.remote))
      (ids.map opening)).map Branch.request
    rwa [List.map_map] at htake
  have hgives : Gives Reads (ids.zip (FanOut.replies (ids.map opening) w.remote)) (x s w).1.roll := by
    have hfan := gives_fanOut hreads ids s w
    rw [hx, hgather, Action.gather_apply]
    generalize Action.fanOut (ids.map opening) s w = run at hfan
    obtain ⟨xs | e | _, t, v⟩ := run <;> exact hfan
  have hdid : w.Did (x s w).2.2 (made.map .request) := by
    refine .of_leaves (fun hR => ?_) hmade
    rw [hx]
    exact Action.leaves_remember hR _ _ _
  generalize (x s w).1 = o at hgives hgathered ⊢
  cases o with
  | done xs =>
    obtain ⟨entries, rfl⟩ := hgives.exists_entries hentry
    obtain rfl := (hgathered.done _ rfl).1
    exact ⟨_, _, .all hgives, .all, hdid⟩
  | failed e => exact ⟨_, _, .unreadable hgives hprefix, .unreadable, hdid⟩
  | waiting => exact ⟨_, _, .unanswered hgives hprefix, .unanswered, hdid⟩

end Siblings

/-! ## processes and containers with their profiles -/

/-- The process of an identifier and a profile. -/
def ProcessHandle.ofEntry (e : Identifier × ProcessProfile) : ProcessHandle := ⟨e.1, some e.2⟩

theorem ProcessHandle.ofEntry_injective : Function.Injective ofEntry := by
  rintro ⟨_, _⟩ ⟨_, _⟩ h
  cases h
  rfl

namespace ContainerHandle

/-- The container of an identifier and a profile, whose processes are still to be read. -/
def ofEntry (e : Identifier × ContainerProfile) : ContainerHandle := ⟨e.1, some e.2, none⟩

theorem ofEntry_injective : Function.Injective ofEntry := by
  rintro ⟨_, _⟩ ⟨_, _⟩ h
  cases h
  rfl

variable [Remote ρ]

/-- What becomes of the processes that the profile of a container declares. -/
abbrev ReachesProcesses (e : Identifier × ContainerProfile) (r : ρ) :
    Roll (Identifier × ProcessProfile) → List Request → Prop :=
  Reached ProcessHandle.opening ProcessHandle.Reads ProcessHandle.ofEntry e.2.processes r

theorem ReachesProcesses.unique {e : Identifier × ContainerProfile} {r : ρ} {a b : Roll (Identifier × ProcessProfile)}
    {made made' : List Request} (ha : ReachesProcesses e r a made) (hb : ReachesProcesses e r b made') :
    a = b ∧ ∀ entries, a = .all entries → made = made' :=
  Reached.unique ProcessHandle.reads_unique ProcessHandle.ofEntry_injective ha hb

theorem enumerate_reached (e : Identifier × ContainerProfile) (w : World ρ) :
    ∃ roll made, ReachesProcesses e w.remote roll made ∧
      Yields ProcessHandle.ofEntry roll (enumerate (ofEntry e) w).1 ∧
      w.Did (enumerate (ofEntry e) w).2.2 (made.map .request) := by
  refine reached_remember ProcessHandle.opening_finish_eq_ok_iff ?_ enumerate_eq rfl rfl w
  rintro id document p ⟨profile, -, hp⟩
  exact ⟨(id, profile), hp⟩

end ContainerHandle

namespace SystemHandle

variable [Remote ρ]

/-- What becomes of the containers that the profile of a system lists. -/
abbrev ReachesContainers (profile : SystemProfile) (r : ρ) :
    Roll (Identifier × ContainerProfile) → List Request → Prop :=
  Reached ContainerHandle.opening ContainerHandle.Reads ContainerHandle.ofEntry profile.containerIds r

theorem enumerate_reached (profile : SystemProfile) (w : World ρ) :
    ∃ roll made, ReachesContainers profile w.remote roll made ∧
      Yields ContainerHandle.ofEntry roll (enumerate ⟨some profile, none⟩ w).1 ∧
      w.Did (enumerate ⟨some profile, none⟩ w).2.2 (made.map .request) := by
  refine reached_remember ContainerHandle.opening_finish_eq_ok_iff ?_ enumerate_eq rfl rfl w
  rintro id document c ⟨profile, -, hc⟩
  exact ⟨(id, profile), hc⟩

/-- What becomes of the containers of a system that is read first, and which fetches there are. Unless the system is
read, no container is. -/
inductive Discovers (r : ρ) : Roll (Identifier × ContainerProfile) → List Request → Prop where
  | unread {e : ClientError} (h : SetUp r (.failed e)) : Discovers r .unreadable [.fetch .system none]
  | silent (h : SetUp r .waiting) : Discovers r .unanswered [.fetch .system none]
  | read {profile : SystemProfile} {roll : Roll (Identifier × ContainerProfile)} {made : List Request}
      (h : SetUp r (.done profile))
      (hcontainers : ReachesContainers profile (Remote.after r [.fetch .system none]) roll made) :
      Discovers r roll (.fetch .system none :: made)

theorem Discovers.unique {r : ρ} {a b : Roll (Identifier × ContainerProfile)} {made made' : List Request}
    (ha : Discovers r a made) (hb : Discovers r b made') : a = b ∧ ∀ entries, a = .all entries → made = made' := by
  cases ha with
  | unread h => cases hb with
    | unread => exact ⟨rfl, by simp⟩
    | silent h' | read h' => cases h.unique h'
  | silent h => cases hb with
    | silent => exact ⟨rfl, by simp⟩
    | unread h' | read h' => cases h.unique h'
  | read h hcontainers => cases hb with
    | unread h' | silent h' => cases h.unique h'
    | read h' hcontainers' =>
      cases h.unique h'
      obtain ⟨rfl, hmade⟩ := hcontainers.unique ContainerHandle.reads_unique ContainerHandle.ofEntry_injective
        hcontainers'
      exact ⟨rfl, fun entries hall => by rw [hmade entries hall]⟩

/-- Reads the system, and then its containers. -/
def discover : Action ρ SystemHandle ClientError (List ContainerHandle) := do
  let _ ← setup
  enumerate

/-- **A discovery does what the replies decide**, and it keeps the containers that it finds. -/
theorem discover_discovers (s : SystemHandle) (w : World ρ) :
    ∃ roll made, Discovers w.remote roll made ∧ Yields ContainerHandle.ofEntry roll (discover s w).1 ∧
      w.Did (discover s w).2.2 (made.map .request) ∧
      ∀ cs, (discover s w).1 = .done cs → (discover s w).2.1.containers = some cs := by
  obtain ⟨hsetUp, hstate⟩ := setUp_setup s w
  have hdid : w.Did (setup s w).2.2 ([.fetch .system none].map .request) := by
    refine .of_leaves (fun hR => ?_) (setup_fetched s w).requests
    rw [setup_eq]
    exact Action.leaves_adopt hR _ _ _ _
  rw [discover, Action.bind_apply]
  generalize setup s w = run at hsetUp hstate hdid
  obtain ⟨profile | e | _, t, v⟩ := run
  · obtain rfl := hstate profile rfl
    obtain ⟨roll, made, hreached, hyields, hmade⟩ := enumerate_reached profile v
    rw [hdid.remote_of_requests] at hreached
    refine ⟨roll, _, .read hsetUp hreached, hyields, hdid.trans hmade, fun cs hcs => ?_⟩
    have hcommits := enumerate_commits (⟨some profile, none⟩ : SystemHandle) v
    simp only at hcs ⊢
    generalize enumerate ⟨some profile, none⟩ v = run at hcommits hcs ⊢
    cases hcommits with
    | done h =>
      cases hcs
      rw [h.2]
    | failed | waiting => cases hcs
  · exact ⟨_, _, .unread hsetUp, .unreadable, hdid, by simp⟩
  · exact ⟨_, _, .silent hsetUp, .unanswered, hdid, by simp⟩

end SystemHandle

/-! ## the lines of containers -/

/-- How an action ended, whatever its value or its error. -/
inductive Ending where
  | complete
  | failed
  | unanswered

/-- How an action ended. -/
def Outcome.ending : Outcome ε α → Ending
  | .done _ => .complete
  | .failed _ => .failed
  | .waiting => .unanswered

namespace Command

open ContainerHandle (ReachesProcesses)

theorem onSystem_bind (x : Action ρ SystemHandle ClientError α) (f : α → Action ρ SystemHandle ClientError β) :
    onSystem (x >>= f) = onSystem x >>= fun a => onSystem (f a) := by
  funext s w
  simp only [onSystem, Action.mapError, Action.bind_apply]
  rcases x s w with ⟨a | e | _, t, v⟩ <;> rfl

theorem onSystem_ending (x : Action ρ SystemHandle ClientError α) (s : SystemHandle) (w : World ρ) :
    (onSystem x s w).1.ending = (x s w).1.ending ∧ (onSystem x s w).2 = (x s w).2 := by
  unfold onSystem Action.mapError
  rcases x s w with ⟨a | e | _, t, v⟩ <;> exact ⟨rfl, rfl⟩

/-- In a container that has been discovered, an action goes as in the container alone. -/
theorem onContainer_apply (missing : Error) (x : Action ρ ContainerHandle ClientError α) {s : SystemHandle}
    {cs : List ContainerHandle} {i : Nat} {c : ContainerHandle} (hcs : s.containers = some cs) (hget : cs[i]? = some c)
    (w : World ρ) : onContainer missing i x s w = match x c w with
      | (.done a, d, v) => (.done a, { s with containers := some (cs.set i d) }, v)
      | (.failed e, d, v) => (.failed (.client e), { s with containers := some (cs.set i d) }, v)
      | (.waiting, d, v) => (.waiting, { s with containers := some (cs.set i d) }, v) := by
  rw [onContainer, Action.bind_apply, onSystem, Action.mapError, SystemHandle.onContainer_apply _ hcs hget]
  rcases x c w with ⟨a | e | _, d, v⟩ <;> rfl

/-- The line of a container: its identifier, its type name and the number of processes that it declares. -/
def containerRow (e : Identifier × ContainerProfile) : String :=
  e.1.text ++ "\t" ++ e.2.typeName ++ "\t" ++ toString e.2.processes.length

/-- The line of a process: its identifier and its type name. -/
def processRow (e : Identifier × ProcessProfile) : String := e.1.text ++ "\t" ++ e.2.typeName

variable [Remote ρ]

/-- What is done about containers, one after the other, and how it ends: the processes of each are fetched, and once
all are read, its line is printed. The first container whose processes cannot all be read is the last one. -/
inductive Rows : List (Identifier × ContainerProfile) → ρ → Ending → List Happening → Prop where
  | nil {r : ρ} : Rows [] r .complete []
  | row {e : Identifier × ContainerProfile} {rest : List (Identifier × ContainerProfile)} {r : ρ}
      {processes : List (Identifier × ProcessProfile)} {made : List Request} {ending : Ending} {done : List Happening}
      (h : ReachesProcesses e r (.all processes) made) (hrest : Rows rest (Remote.after r made) ending done) :
      Rows (e :: rest) r ending (made.map .request ++ (.line (containerRow e) :: done))
  | unreadable {e : Identifier × ContainerProfile} {rest : List (Identifier × ContainerProfile)} {r : ρ}
      {made : List Request} (h : ReachesProcesses e r .unreadable made) :
      Rows (e :: rest) r .failed (made.map .request)
  | unanswered {e : Identifier × ContainerProfile} {rest : List (Identifier × ContainerProfile)} {r : ρ}
      {made : List Request} (h : ReachesProcesses e r .unanswered made) :
      Rows (e :: rest) r .unanswered (made.map .request)

/-- **The replies decide the lines of the containers.** -/
theorem Rows.unique {entries : List (Identifier × ContainerProfile)} {r : ρ} {a b : Ending}
    {done done' : List Happening} (ha : Rows entries r a done) (hb : Rows entries r b done') :
    a = b ∧ linesOf done = linesOf done' := by
  induction ha generalizing b done' with
  | nil =>
    cases hb
    exact ⟨rfl, rfl⟩
  | row h hrest ih => cases hb with
    | row h' hrest' =>
      obtain ⟨-, hmade⟩ := h.unique h'
      obtain rfl := hmade _ rfl
      obtain ⟨rfl, hlines⟩ := ih hrest'
      exact ⟨rfl, by simp [hlines]⟩
    | unreadable h' | unanswered h' => cases (h.unique h').1
  | unreadable h => cases hb with
    | unreadable => simp
    | row h' | unanswered h' => cases (h.unique h').1
  | unanswered h => cases hb with
    | unanswered => simp
    | row h' | unreadable h' => cases (h.unique h').1

/-- The fetches of the processes that a container declares, as often as it declares them. -/
def processFetches (e : Identifier × ContainerProfile) : List Request :=
  e.2.processes.map fun id => .fetch .process (some id)

/-- How far the containers were printed: all of them, or exactly those before one whose processes were not all read.
Processes are fetched of these containers and of that one, and of none that comes later. -/
inductive Cut (entries : List (Identifier × ContainerProfile)) : Ending → List Happening → Prop where
  | whole {done : List Happening} (hlines : linesOf done = entries.map containerRow)
      (hrequests : requestsOf done = entries.flatMap processFetches) : Cut entries .complete done
  | short {before after : List (Identifier × ContainerProfile)} {e : Identifier × ContainerProfile} {ending : Ending}
      {made : List Request} {done : List Happening} (h : entries = before ++ e :: after) (hending : ending ≠ .complete)
      (hlines : linesOf done = before.map containerRow) (hmade : made <+: processFetches e)
      (hrequests : requestsOf done = before.flatMap processFetches ++ made) : Cut entries ending done

/-- **A failure leaves the lines of exactly the containers before it.** The induction is on the rows. -/
theorem Rows.cut {entries : List (Identifier × ContainerProfile)} {r : ρ} {ending : Ending} {done : List Happening}
    (h : Rows entries r ending done) : Cut entries ending done := by
  induction h with
  | nil => exact .whole rfl rfl
  | @row e _ _ _ made _ _ h _ ih =>
    have hmade : made = processFetches e := by
      cases h
      rfl
    cases ih with
    | whole hlines hrequests => exact .whole (by simp [hlines]) (by simp [hmade, hrequests])
    | @short before _ _ _ _ _ hentries hending hlines hprefix hrequests =>
      rw [hentries, ← List.cons_append]
      exact .short rfl hending (by simp [hlines]) hprefix (by simp [hmade, hrequests])
  | unreadable h | unanswered h =>
    exact .short (List.nil_append _).symm (by simp) (by simp) h.isPrefix (by simp)

/-- The line that is printed for a container is its line, once as many processes are there as it declares. -/
theorem containerLine_eq (e : Identifier × ContainerProfile) {ps : List ProcessHandle}
    (h : ps.length = e.2.processes.length) : containerLine e.1 e.2.typeName ps = containerRow e := by
  rw [containerLine, h]
  rfl

theorem printContainer_apply (e : Identifier × ContainerProfile) (w : World ρ) :
    printContainer (ContainerHandle.ofEntry e) w = match ContainerHandle.enumerate (ContainerHandle.ofEntry e) w with
      | (.done ps, d, v) => (.done (), d, v.record (.line (containerLine e.1 e.2.typeName ps)))
      | (.failed cause, d, v) => (.failed cause, d, v)
      | (.waiting, d, v) => (.waiting, d, v) := by
  have htype : (ContainerHandle.ofEntry e).typeName? = .ok e.2.typeName := rfl
  rw [printContainer, Action.bind_apply, Action.read_apply]
  simp only
  rw [Action.bind_apply, htype, Action.ofExcept_ok]
  simp only
  rw [Action.bind_apply]
  rcases ContainerHandle.enumerate (ContainerHandle.ofEntry e) w with ⟨ps | cause | _, d, v⟩ <;> rfl

/-- **The containers of a system are printed row by row.** The induction is on those that are still to be printed:
whatever has been kept of the others, they are as they were discovered. -/
theorem printContainers_rows (entries : List (Identifier × ContainerProfile)) (i : Nat) {s : SystemHandle}
    {cs : List ContainerHandle} (hcs : s.containers = some cs)
    (hdrop : cs.drop i = entries.map ContainerHandle.ofEntry) (w : World ρ) :
    ∃ done, Rows entries w.remote (printContainers (List.range' i entries.length) s w).1.ending done ∧
      w.Did (printContainers (List.range' i entries.length) s w).2.2 done := by
  induction entries generalizing i s cs w with
  | nil => exact ⟨[], .nil, .refl w⟩
  | cons e rest ih =>
    have hget : cs[i]? = some (ContainerHandle.ofEntry e) := by
      rw [← List.head?_drop, hdrop]
      rfl
    obtain ⟨roll, made, hreached, hyields, hdid⟩ := ContainerHandle.enumerate_reached e w
    rw [List.length_cons, List.range'_succ, printContainers, Action.bind_apply,
      SystemHandle.onContainer_apply _ hcs hget, printContainer_apply]
    generalize ContainerHandle.enumerate (ContainerHandle.ofEntry e) w = run at hyields hdid
    obtain ⟨o, d, v⟩ := run
    cases hyields with
    | @all processes =>
      have hlength : (processes.map ProcessHandle.ofEntry).length = e.2.processes.length := by
        rw [List.length_map, hreached.length_eq]
      have hrest : (cs.set i d).drop (i + 1) = rest.map ContainerHandle.ofEntry := by
        rw [List.drop_set_of_lt (Nat.lt_succ_self i), ← List.tail_drop, hdrop]
        rfl
      obtain ⟨done, hrows, hdone⟩ := ih (i + 1) (s := { s with containers := some (cs.set i d) }) rfl hrest
        (v.record (.line (containerRow e)))
      have hremote : (v.record (.line (containerRow e))).remote = Remote.after w.remote made := hdid.remote_of_requests
      rw [hremote] at hrows
      simp only [Outcome.map, containerLine_eq e hlength]
      exact ⟨_, .row hreached hrows, hdid.trans ((World.Did.line v _).trans hdone)⟩
    | unreadable => exact ⟨_, .unreadable hreached, hdid⟩
    | unanswered => exact ⟨_, .unanswered hreached, hdid⟩

/-! ## the lines of processes -/

/-- What is done about the processes of the first container of a type, and how it ends: they are fetched, and once all
are read their lines are printed, in the order of the profile. -/
inductive Entries (container : String) (entries : List (Identifier × ContainerProfile)) (r : ρ) :
    Ending → List Happening → Prop where
  | noContainer (hnone : ∀ e ∈ entries, e.2.typeName ≠ container) : Entries container entries r .failed []
  | listed {e : Identifier × ContainerProfile} {processes : List (Identifier × ProcessProfile)} {made : List Request}
      (hfirst : First (·.2.typeName = container) entries e) (h : ReachesProcesses e r (.all processes) made) :
      Entries container entries r .complete (made.map .request ++ (processes.map processRow).map .line)
  | unreadable {e : Identifier × ContainerProfile} {made : List Request}
      (hfirst : First (·.2.typeName = container) entries e) (h : ReachesProcesses e r .unreadable made) :
      Entries container entries r .failed (made.map .request)
  | unanswered {e : Identifier × ContainerProfile} {made : List Request}
      (hfirst : First (·.2.typeName = container) entries e) (h : ReachesProcesses e r .unanswered made) :
      Entries container entries r .unanswered (made.map .request)

/-- **The replies decide the lines of the processes.** -/
theorem Entries.unique {container : String} {entries : List (Identifier × ContainerProfile)} {r : ρ} {a b : Ending}
    {done done' : List Happening} (ha : Entries container entries r a done) (hb : Entries container entries r b done') :
    a = b ∧ linesOf done = linesOf done' := by
  cases ha with
  | noContainer hnone => cases hb with
    | noContainer => exact ⟨rfl, rfl⟩
    | listed hfirst | unreadable hfirst | unanswered hfirst => exact absurd hfirst.mem.2 (hnone _ hfirst.mem.1)
  | listed hfirst h => cases hb with
    | noContainer hnone => exact absurd hfirst.mem.2 (hnone _ hfirst.mem.1)
    | listed hfirst' h' =>
      obtain rfl := hfirst.unique hfirst'
      obtain ⟨hprocesses, -⟩ := h.unique h'
      cases hprocesses
      simp
    | unreadable hfirst' h' | unanswered hfirst' h' =>
      obtain rfl := hfirst.unique hfirst'
      cases (h.unique h').1
  | unreadable hfirst h => cases hb with
    | noContainer hnone => exact absurd hfirst.mem.2 (hnone _ hfirst.mem.1)
    | unreadable => simp
    | listed hfirst' h' | unanswered hfirst' h' =>
      obtain rfl := hfirst.unique hfirst'
      cases (h.unique h').1
  | unanswered hfirst h => cases hb with
    | noContainer hnone => exact absurd hfirst.mem.2 (hnone _ hfirst.mem.1)
    | unanswered => simp
    | listed hfirst' h' | unreadable hfirst' h' =>
      obtain rfl := hfirst.unique hfirst'
      cases (h.unique h').1

/-- Processes that have been read are printed one after the other. -/
theorem printProcesses_did (entries : List (Identifier × ProcessProfile)) (s : SystemHandle) (w : World ρ) :
    ∃ v, printProcesses (entries.map ProcessHandle.ofEntry) s w = (.done (), s, v) ∧
      w.Did v ((entries.map processRow).map .line) := by
  induction entries generalizing w with
  | nil => exact ⟨w, rfl, .refl w⟩
  | cons e rest ih =>
    obtain ⟨v, hprint, hdid⟩ := ih (w.record (.line (processRow e)))
    refine ⟨v, ?_, (World.Did.line w _).trans hdid⟩
    rw [← hprint]
    rfl

/-- Prints the processes of the first container of a type. -/
def printFirst (container : String) (cs : List ContainerHandle) : Action ρ SystemHandle Error Unit :=
  match cs.findIdx? (ContainerHandle.hasType container) with
  | none => Action.fail (.noContainer container)
  | some i => do
    let processes ← onContainer (.noContainer container) i ContainerHandle.enumerate
    onSystem (printProcesses processes)

theorem hasType_ofEntry (container : String) :
    ContainerHandle.hasType container ∘ ContainerHandle.ofEntry = fun e => decide (e.2.typeName = container) := rfl

/-- **The processes of the first container of a type are printed, and none if one of them cannot be read.** -/
theorem printFirst_entries (container : String) (entries : List (Identifier × ContainerProfile)) {s : SystemHandle}
    (hcs : s.containers = some (entries.map ContainerHandle.ofEntry)) (w : World ρ) :
    ∃ done, Entries container entries w.remote
        (printFirst container (entries.map ContainerHandle.ofEntry) s w).1.ending done ∧
      w.Did (printFirst container (entries.map ContainerHandle.ofEntry) s w).2.2 done := by
  unfold printFirst
  rw [List.findIdx?_map, hasType_ofEntry]
  cases hi : entries.findIdx? (fun e => decide (e.2.typeName = container)) with
  | none =>
    refine ⟨[], .noContainer fun e he => ?_, .refl w⟩
    simpa using List.findIdx?_eq_none_iff.1 hi e he
  | some i =>
    obtain ⟨hlt, -⟩ := List.findIdx?_eq_some_iff_getElem.1 hi
    obtain ⟨e, he⟩ : ∃ e, entries[i]? = some e := ⟨_, List.getElem?_eq_getElem hlt⟩
    have hfirst : First (·.2.typeName = container) entries e := by
      have hfind : entries.find? (fun e => decide (e.2.typeName = container)) = some e := by
        rw [List.find?_eq_bind_findIdx?_getElem?, hi]
        exact he
      simpa using find?_eq_some_iff_first.1 hfind
    have hget : (entries.map ContainerHandle.ofEntry)[i]? = some (ContainerHandle.ofEntry e) := by
      rw [List.getElem?_map, he]
      rfl
    obtain ⟨roll, made, hreached, hyields, hdid⟩ := ContainerHandle.enumerate_reached e w
    simp only
    rw [Action.bind_apply, onContainer_apply _ _ hcs hget]
    generalize ContainerHandle.enumerate (ContainerHandle.ofEntry e) w = run at hyields hdid
    obtain ⟨o, d, v⟩ := run
    cases hyields with
    | @all processes =>
      obtain ⟨u, hprint, hprinted⟩ := printProcesses_did processes
        { s with containers := some ((entries.map ContainerHandle.ofEntry).set i d) } v
      simp only [onSystem, Action.mapError, hprint]
      exact ⟨_, .listed hfirst hreached, hdid.trans hprinted⟩
    | unreadable => exact ⟨_, .unreadable hfirst hreached, hdid⟩
    | unanswered => exact ⟨_, .unanswered hfirst hreached, hdid⟩

/-! ## the two commands -/

/-- What a listing does, by the replies alone: the system and its containers are read, and once all are read it goes
on with them. -/
inductive Lists (Next : List (Identifier × ContainerProfile) → ρ → Ending → List Happening → Prop) (r : ρ) :
    Ending → List Happening → Prop where
  | unreadable {made : List Request} (h : SystemHandle.Discovers r .unreadable made) :
      Lists Next r .failed (made.map .request)
  | unanswered {made : List Request} (h : SystemHandle.Discovers r .unanswered made) :
      Lists Next r .unanswered (made.map .request)
  | read {entries : List (Identifier × ContainerProfile)} {made : List Request} {ending : Ending}
      {done : List Happening} (h : SystemHandle.Discovers r (.all entries) made)
      (hnext : Next entries (Remote.after r made) ending done) : Lists Next r ending (made.map .request ++ done)

variable {Next : List (Identifier × ContainerProfile) → ρ → Ending → List Happening → Prop}

/-- **The replies decide the lines of a listing**, if they decide how it goes on. -/
theorem Lists.unique {r : ρ} {a b : Ending} {done done' : List Happening} (ha : Lists Next r a done)
    (hb : Lists Next r b done')
    (hunique : ∀ {entries r a b done done'}, Next entries r a done → Next entries r b done' →
      a = b ∧ linesOf done = linesOf done') :
    a = b ∧ linesOf done = linesOf done' := by
  cases ha with
  | unreadable h => cases hb with
    | unreadable => simp
    | unanswered h' | read h' => cases (h.unique h').1
  | unanswered h => cases hb with
    | unanswered => simp
    | unreadable h' | read h' => cases (h.unique h').1
  | read h hnext => cases hb with
    | unreadable h' | unanswered h' => cases (h.unique h').1
    | read h' hnext' =>
      obtain ⟨hentries, hmade⟩ := h.unique h'
      cases hentries
      obtain rfl := hmade _ rfl
      obtain ⟨rfl, hlines⟩ := hunique hnext hnext'
      exact ⟨rfl, by simp [hlines]⟩

/-- A listing of processes that fails prints nothing. -/
theorem Lists.silent {container : String} {r : ρ} {ending : Ending} {done : List Happening}
    (h : Lists (Entries container) r ending done) (hending : ending ≠ .complete) : linesOf done = [] := by
  cases h with
  | unreadable | unanswered => simp
  | read _ hnext => cases hnext with
    | noContainer | unreadable | unanswered => simp
    | listed => exact absurd rfl hending

/-- A listing that goes on as the containers let it, does so after the system and its containers have been read. -/
theorem lists_discover {next : List ContainerHandle → Action ρ SystemHandle Error Unit}
    (hnext : ∀ (entries : List (Identifier × ContainerProfile)) (t : SystemHandle) (v : World ρ),
      t.containers = some (entries.map ContainerHandle.ofEntry) →
      ∃ done, Next entries v.remote (next (entries.map ContainerHandle.ofEntry) t v).1.ending done ∧
        v.Did (next (entries.map ContainerHandle.ofEntry) t v).2.2 done)
    (s : SystemHandle) (w : World ρ) :
    ∃ done, Lists Next w.remote ((onSystem SystemHandle.discover >>= next) s w).1.ending done ∧
      w.Did ((onSystem SystemHandle.discover >>= next) s w).2.2 done := by
  obtain ⟨roll, made, hdiscovers, hyields, hdid, hkept⟩ := SystemHandle.discover_discovers s w
  rw [Action.bind_apply, onSystem, Action.mapError]
  generalize SystemHandle.discover s w = run at hyields hdid hkept
  obtain ⟨o, t, v⟩ := run
  cases hyields with
  | @all entries =>
    obtain ⟨done, hgoes, hdone⟩ := hnext entries t v (hkept _ rfl)
    have hremote : v.remote = Remote.after w.remote made := hdid.remote_of_requests
    rw [hremote] at hgoes
    exact ⟨_, .read hdiscovers hgoes, hdid.trans hdone⟩
  | unreadable => exact ⟨_, .unreadable hdiscovers, hdid⟩
  | unanswered => exact ⟨_, .unanswered hdiscovers, hdid⟩

/-- The command for containers reads the system and its containers, and then prints them. -/
theorem containers_eq : (containers : Action ρ SystemHandle Error Unit) =
    onSystem SystemHandle.discover >>= fun cs => onSystem (printContainers (List.range cs.length)) := by
  rw [containers, ← onSystem_bind, SystemHandle.discover, Action.bind_assoc]

/-- The command for processes reads the system and its containers, and then prints the processes of one. -/
theorem processes_eq (container : String) : (processes container : Action ρ SystemHandle Error Unit) =
    onSystem SystemHandle.discover >>= printFirst container := by
  rw [processes, SystemHandle.discover, onSystem_bind, Action.bind_assoc, SystemHandle.find_byType]
  simp only [onSystem_bind, Action.bind_assoc]
  rfl

/-- A command does what a listing does on the same replies, which decide the end and the lines of it. -/
structure Reports (Next : List (Identifier × ContainerProfile) → ρ → Ending → List Happening → Prop)
    (x : Action ρ SystemHandle Error Unit) (s : SystemHandle) (w : World ρ) (done : List Happening) : Prop where
  did : w.Did (x s w).2.2 done
  lists : Lists Next w.remote (x s w).1.ending done
  unique : ∀ ending other, Lists Next w.remote ending other → ending = (x s w).1.ending ∧ linesOf other = linesOf done

theorem containers_reports (s : SystemHandle) (w : World ρ) : ∃ done, Reports Rows containers s w done := by
  obtain ⟨done, hlists, hdid⟩ : ∃ done, Lists Rows w.remote (containers s w).1.ending done ∧
      w.Did (containers s w).2.2 done := by
    rw [containers_eq]
    refine lists_discover (fun entries t v hcs => ?_) s w
    obtain ⟨hending, hrest⟩ := onSystem_ending
      (printContainers (List.range (entries.map ContainerHandle.ofEntry).length)) t v
    rw [hending, hrest, List.length_map, List.range_eq_range']
    exact printContainers_rows entries 0 hcs List.drop_zero v
  exact ⟨done, hdid, hlists, fun _ _ h => h.unique hlists Rows.unique⟩

theorem processes_reports (container : String) (s : SystemHandle) (w : World ρ) :
    ∃ done, Reports (Entries container) (processes container) s w done := by
  obtain ⟨done, hlists, hdid⟩ : ∃ done, Lists (Entries container) w.remote (processes container s w).1.ending done ∧
      w.Did (processes container s w).2.2 done := by
    rw [processes_eq]
    exact lists_discover (fun entries _ v hcs => printFirst_entries container entries hcs v) s w
  exact ⟨done, hdid, hlists, fun _ _ h => h.unique hlists Entries.unique⟩

/-- **The listings report what is discovered, up to what cannot be read.** Both commands do, by the replies alone, what
a listing does: the system and its containers are read, and nothing is printed unless all of them are. Then containers
are printed row by row. If the processes of one cannot be read, exactly the lines of those before it have been printed,
and no process of a later one has been asked for. Processes are those of the first container of the type, and nothing
is printed unless all of them are read. -/
theorem listings_report (s : SystemHandle) (w : World ρ) :
    (∃ done, Reports Rows containers s w done) ∧
    (∀ container, ∃ done, Reports (Entries container) (processes container) s w done) ∧
    (∀ (entries : List (Identifier × ContainerProfile)) (r : ρ) ending done, Rows entries r ending done →
      Cut entries ending done) ∧
    ∀ container (r : ρ) ending done, Lists (Entries container) r ending done → ending ≠ .complete → linesOf done = [] :=
  ⟨containers_reports s w, fun container => processes_reports container s w, fun _ _ _ _ h => h.cut,
    fun _ _ _ _ h hending => h.silent hending⟩

/-- A server with two arms, where the process of the second one is not there. -/
def halfTwoArms : Script :=
  { twoArms with processes := [("g", [.document (.object [("type_name", .string "grip")])])] }

/-- The first arm is printed before the second one fails, and what has been printed is the first of the rows. The
processes of the first arm are all printed. Of a leg, which there is not, nothing is. -/
theorem listings_report_halfTwoArms :
    (∃ done entries rows, Lists Rows halfTwoArms .failed done ∧ linesOf done = ["a\tarm\t1"] ∧
      linesOf rows = ["a\tarm\t1"] ∧ Cut entries .failed rows) ∧
    (∃ done, Lists (Entries "arm") halfTwoArms .complete done ∧ linesOf done = ["g\tgrip"]) ∧
    ∃ done, Lists (Entries "leg") halfTwoArms .failed done ∧ linesOf done = [] := by
  obtain ⟨⟨done, hcontainers⟩, hprocesses, hcut, hsilent⟩ :=
    listings_report SystemHandle.new (World.start halfTwoArms)
  refine ⟨?_, ?_, ?_⟩
  · have hending : (containers SystemHandle.new (World.start halfTwoArms)).1.ending = .failed := by
      with_unfolding_all rfl
    have hlines : (containers SystemHandle.new (World.start halfTwoArms)).2.2.lines = ["a\tarm\t1"] := by
      with_unfolding_all rfl
    have hlists := hcontainers.lists
    rw [hcontainers.did.lines] at hlines
    rw [hending] at hlists
    change linesOf done = _ at hlines
    cases hlists with
    | unreadable h => simp at hlines
    | @read entries made _ rows h hnext =>
      exact ⟨_, entries, rows, .read h hnext, hlines, by simpa using hlines, hcut _ _ _ _ hnext⟩
  · obtain ⟨done, harm⟩ := hprocesses "arm"
    have hending : (processes "arm" SystemHandle.new (World.start halfTwoArms)).1.ending = .complete := by
      with_unfolding_all rfl
    have hlines : (processes "arm" SystemHandle.new (World.start halfTwoArms)).2.2.lines = ["g\tgrip"] := by
      with_unfolding_all rfl
    have hlists := harm.lists
    rw [harm.did.lines] at hlines
    rw [hending] at hlists
    exact ⟨done, hlists, hlines⟩
  · obtain ⟨done, hleg⟩ := hprocesses "leg"
    have hending : (processes "leg" SystemHandle.new (World.start halfTwoArms)).1.ending = .failed := by
      with_unfolding_all rfl
    have hlists := hleg.lists
    rw [hending] at hlists
    exact ⟨done, hlists, hsilent _ _ _ _ hlists (by simp)⟩

end Command

end ProcessGraph
