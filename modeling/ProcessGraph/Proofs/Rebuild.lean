import ProcessGraph.Proofs.Coherence

/-!
# Discovery as against rebuilding

What a system has kept and reconciled cannot be told from what a new system finds, if the remote side always
says the same of each container and each process.

* `Remote.Fixed`: as far as some view goes, fetches of containers and processes are always answered alike.
* `Remote.Repeats`: fan-outs over containers and processes always end alike.
* `ContainerHandle.enumerate_agrees`, `SystemHandle.enumerate_agrees`: an enumeration that finds something
  kept agrees with one that finds nothing.
* `SystemHandle.SameDiscovery`: two systems whose containers and processes cannot be told apart.
* `SystemHandle.run_new_sameDiscovery`: after every run, a system discovers what a new system does that
  receives the same document.
-/

namespace ProcessGraph

variable {ρ : Type} [Remote ρ]

/-! ## remote sides that repeat themselves -/

/-- As far as a view of the answers goes, the fetch of a container or a process is always answered alike.
Nothing is said of the fetch of the system. -/
def Remote.Fixed (ρ : Type) [Remote ρ] {β : Type} (view : Answer (Except ClientError Json.Value) → β) :
    Prop :=
  ∀ (kind : Kind) (id : Identifier), kind ≠ .system → ∀ r r' : ρ,
    (Remote.answer r (.fetch kind (some id))).1.map view =
      (Remote.answer r' (.fetch kind (some id))).1.map view

/-- Fan-outs over containers and processes end alike in all states of the remote side, up to a relation of
errors. -/
def Remote.Repeats (ρ : Type) [Remote ρ] (E : ClientError → ClientError → Prop) : Prop :=
  ∀ {α : Type} (bs : List (Branch α)), (∀ b ∈ bs, b.kind ≠ .system) → ∀ r r' : ρ,
    (FanOut.verdict (FanOut.returns bs r)).Agrees E Eq (FanOut.verdict (FanOut.returns bs r'))

namespace FanOut

variable {α : Type}

/-- What is made of the returns is fixed if it is made of what is fixed about the answers. -/
theorem map_returns_eq {β γ : Type} {view : Answer (Except ClientError Json.Value) → β}
    (hfixed : Remote.Fixed ρ view) {f : Returned α → γ} {g : Branch α → Option β → γ}
    (hf : ∀ (b : Branch α) (answer : Option (Answer (Except ClientError Json.Value))),
      f (answer.map fun a => (a.after, (b.finish a.reply).2)) = g b (answer.map view))
    {bs : List (Branch α)} (hbs : ∀ b ∈ bs, b.kind ≠ .system) (r r' : ρ) :
    (returns bs r).map f = (returns bs r').map f := by
  induction bs generalizing r r' with
  | nil => rfl
  | cons b rest ih =>
    obtain ⟨hb, hrest⟩ := List.forall_mem_cons.1 hbs
    rw [returns, returns, List.map_cons, List.map_cons, hf, hf, hfixed b.kind b.identifier hb r r',
      ih hrest]

theorem repeats_of_replies (hfixed : Remote.Fixed ρ Answer.reply) :
    Remote.Repeats ρ fun _ _ => True := by
  intro α bs hbs r r'
  refine agrees_verdict (map_returns_eq hfixed (g := fun b o => o.map fun x => (b.finish x).2) ?_ hbs r r')
  rintro b (_ | a) <;> rfl

theorem repeats_of_timed_replies (hfixed : Remote.Fixed ρ fun a => (a.after, a.reply)) :
    Remote.Repeats ρ Eq := by
  intro α bs hbs r r'
  have h : (returns bs r).map id = (returns bs r').map id := by
    refine map_returns_eq hfixed (g := fun b o => o.map fun x => (x.1, (b.finish x.2).2)) ?_ hbs r r'
    rintro b (_ | a) <;> rfl
  rw [List.map_id, List.map_id] at h
  rw [h]
  exact Outcome.agrees_refl (fun _ => rfl) (fun _ => rfl) _

/-- What was opened once is opened again. -/
theorem verdict_of_opens (hfixed : Remote.Fixed ρ Answer.reply) {bs : List (Branch α)} {xs : List α}
    (hbs : ∀ b ∈ bs, b.kind ≠ .system) (h : List.Forall₂ (Branch.Opens ρ) bs xs) (r : ρ) :
    verdict (returns bs r) = .done xs := by
  rw [verdict_eq_done_iff]
  induction h generalizing r with
  | nil => rfl
  | @cons b x bs xs hb _ ih =>
    obtain ⟨hkind, hrest⟩ := List.forall_mem_cons.1 hbs
    obtain ⟨reply, ⟨r', a', ha', rfl⟩, hx⟩ := hb
    have ha := hfixed b.kind b.identifier hkind r r'
    rw [ha'] at ha
    obtain ⟨a, ha, hreply⟩ := Option.map_eq_some_iff.1 ha
    rw [returns, List.map_cons, List.map_cons, ih hrest, ha]
    simp [result?, hreply, hx]

end FanOut

/-- Branches that open what is listed. -/
theorem opens_of_listed {α : Type} {opening : Identifier → Branch α} {identifier : α → Identifier}
    {Q : α → Prop} {f : α → α} (hopen : ∀ x, Q x → (opening (identifier x)).Opens ρ (f x))
    {ids : List Identifier} {xs : List α} (h : Listed identifier Q ids xs) :
    List.Forall₂ (Branch.Opens ρ) (ids.map opening) (xs.map f) := by
  obtain ⟨rfl, hall⟩ := h
  rw [List.map_map, List.forall₂_map_left_iff, List.forall₂_map_right_iff, List.forall₂_same]
  exact fun x hx => hopen x (hall x hx)

variable {E : ClientError → ClientError → Prop}

/-! ## the processes of a container -/

theorem ProcessHandle.Faithful.opens {p : ProcessHandle} (h : p.Faithful ρ) :
    (opening p.identifier).Opens ρ p := by
  obtain ⟨profile, hprofile, reply, hreply, hreceive⟩ := h
  refine ⟨reply, hreply, ?_⟩
  simp only [opening, hreceive, Except.map, ← hprofile]

namespace ContainerHandle

/-- The container as it was before its processes were enumerated. -/
def bare (c : ContainerHandle) : ContainerHandle := { c with processes := none }

theorem Faithful.opens {c : ContainerHandle} (h : c.isReady ∧ c.Faithful ρ) :
    (opening c.identifier).Opens ρ c.bare := by
  obtain ⟨hready, hfaithful⟩ := h
  obtain ⟨profile, hprofile⟩ := Option.isSome_iff_exists.1 hready
  obtain ⟨reply, hreply, hreceive⟩ := hfaithful.received profile hprofile
  refine ⟨reply, hreply, ?_⟩
  simp only [opening, hreceive, Except.map, bare, hprofile]

/-- Without processes an enumeration is a fan-out over the profile. -/
theorem enumerate_fst {c : ContainerHandle} {profile : ContainerProfile} (hnone : c.processes = none)
    (hprofile : c.profile = some profile) (w : World ρ) :
    (enumerate c w).1 =
      FanOut.verdict (FanOut.returns (profile.processes.map ProcessHandle.opening) w.remote) := by
  obtain ⟨w', hfan⟩ := FanOut.fanOut_apply (profile.processes.map ProcessHandle.opening) c w
  simp only [enumerate, Action.bind_apply, Action.read_apply, hnone, profile?_eq_ok_iff.2 hprofile,
    Action.ofExcept_ok, hfan]
  cases FanOut.verdict (FanOut.returns (profile.processes.map ProcessHandle.opening) w.remote) <;> rfl

/-- **The processes that a container has kept are those that it would find now.** -/
theorem enumerate_agrees (hfixed : Remote.Fixed ρ Answer.reply) (hrepeats : Remote.Repeats ρ E)
    {c : ContainerHandle} (hc : c.isReady ∧ c.Faithful ρ) (u v : World ρ) :
    (enumerate c u).1.Agrees E Eq (enumerate c.bare v).1 := by
  obtain ⟨hready, hfaithful⟩ := hc
  obtain ⟨profile, hprofile⟩ := Option.isSome_iff_exists.1 hready
  have hkind : ∀ b ∈ profile.processes.map ProcessHandle.opening, b.kind ≠ .system := by
    simp [ProcessHandle.opening]
  rw [enumerate_fst (c := c.bare) rfl hprofile v]
  cases hps : c.processes with
  | none =>
    rw [enumerate_fst hps hprofile u]
    exact hrepeats _ hkind _ _
  | some ps =>
    -- each process was opened by a reply once, and the same reply comes again
    obtain ⟨_, heq, hlisted⟩ := hfaithful.listed ps hps
    cases hprofile.symm.trans heq
    have hopens := opens_of_listed (f := id) (fun _ => ProcessHandle.Faithful.opens) hlisted
    rw [List.map_id] at hopens
    rw [FanOut.verdict_of_opens hfixed hkind hopens]
    have hdone : (enumerate c u).1 = .done ps := by
      simp only [enumerate, Action.bind_apply, Action.read_apply, hps, Action.pure_apply]
    rw [hdone]
    exact .done rfl

end ContainerHandle

/-! ## the containers of a system -/

namespace SystemHandle

open ContainerHandle (bare)

theorem enumerate_apply_of_kept {s : SystemHandle} {cs : List ContainerHandle} (hcs : s.containers = some cs)
    (w : World ρ) : enumerate s w = (.done cs, s, w) := by
  simp only [enumerate, Action.bind_apply, Action.read_apply, hcs, Action.pure_apply]

/-- Without containers an enumeration is a fan-out over the profile, and it keeps what it finds. -/
theorem enumerate_apply_of_none {s : SystemHandle} {profile : SystemProfile} (hnone : s.containers = none)
    (hprofile : s.profile = some profile) (w : World ρ) :
    ∃ w', enumerate s w =
      match FanOut.verdict (FanOut.returns (profile.containerIds.map ContainerHandle.opening) w.remote) with
      | .done cs => (.done cs, { s with containers := some cs }, w')
      | .failed e => (.failed e, s, w')
      | .waiting => (.waiting, s, w') := by
  obtain ⟨w', hfan⟩ := FanOut.fanOut_apply (profile.containerIds.map ContainerHandle.opening) s w
  have hids : s.containerIds? = .ok profile.containerIds :=
    containerIds?_eq_ok_iff.2 ⟨profile, hprofile, rfl⟩
  refine ⟨w', ?_⟩
  simp only [enumerate, Action.bind_apply, Action.read_apply, hnone, hids, Action.ofExcept_ok, hfan]
  cases FanOut.verdict (FanOut.returns (profile.containerIds.map ContainerHandle.opening) w.remote) <;> rfl

theorem map_bare_of_opens {ids : List Identifier} {cs : List ContainerHandle}
    (h : List.Forall₂ (Branch.Opens ρ) (ids.map ContainerHandle.opening) cs) : cs.map bare = cs := by
  have hbare : ∀ id c, (ContainerHandle.opening id).Opens ρ c → c.identifier = id ∧ bare c = c := by
    intro id c hc
    obtain ⟨profile, -, rfl⟩ := ContainerHandle.opening_opens hc
    exact ⟨rfl, rfl⟩
  rw [List.map_congr_left (listed_of_opens hbare h).2, List.map_id']

/-- A system whose containers are those of another one, some of which have processes. -/
def Covers (s t : SystemHandle) : Prop :=
  t.containers = s.containers.map (List.map bare)

/-- **The containers that a system has kept are those that it would find now.** Afterwards it has them, or
neither it nor the other one has any. -/
theorem enumerate_agrees (hfixed : Remote.Fixed ρ Answer.reply) (hrepeats : Remote.Repeats ρ E)
    {s : SystemHandle} (hs : s.Faithful ρ) {profile : SystemProfile} (hprofile : s.profile = some profile)
    (u v : World ρ) :
    (enumerate s u).1.Agrees E (fun cs ds => ds = cs.map bare) (enumerate ⟨some profile, none⟩ v).1 ∧
      (enumerate s u).2.1.Covers (enumerate ⟨some profile, none⟩ v).2.1 := by
  have hkind : ∀ b ∈ profile.containerIds.map ContainerHandle.opening, b.kind ≠ .system := by
    simp [ContainerHandle.opening]
  obtain ⟨v', hv⟩ := enumerate_apply_of_none (s := ⟨some profile, none⟩) rfl rfl v
  cases hcs : s.containers with
  | none =>
    obtain ⟨u', hu⟩ := enumerate_apply_of_none hcs hprofile u
    have hagree := hrepeats _ hkind u.remote v.remote
    rw [hu, hv]
    generalize hx : FanOut.verdict (FanOut.returns _ u.remote) = o at hagree
    generalize FanOut.verdict (FanOut.returns _ v.remote) = o' at hagree
    cases hagree with
    | done heq =>
      subst heq
      have hopens := FanOut.opens_of_results (FanOut.verdict_eq_done_iff.1 hx)
      have hmap := map_bare_of_opens hopens
      exact ⟨.done hmap.symm, by rw [Covers, Option.map_some, hmap]⟩
    | failed h => exact ⟨.failed h, by rw [Covers, hcs]; rfl⟩
    | waiting => exact ⟨.waiting, by rw [Covers, hcs]; rfl⟩
  | some cs =>
    -- the containers may come from several refreshes, but each was opened by a reply that comes again
    obtain ⟨_, heq, hlisted⟩ := hs.listed cs hcs
    cases hprofile.symm.trans heq
    have hopens := opens_of_listed (fun _ => ContainerHandle.Faithful.opens) hlisted
    rw [enumerate_apply_of_kept hcs, hv, FanOut.verdict_of_opens hfixed hkind hopens]
    exact ⟨.done rfl, by rw [Covers, hcs]; rfl⟩

/-! ## two systems that discover the same -/

/-- Two systems cannot be told apart, at whatever times they are asked: their enumerations agree, with the
same identifiers and profiles in the same order; so do their look-ups; and so do the enumerations of the
processes of containers at the same position. Errors are compared by a relation. -/
structure SameDiscovery (ρ : Type) [Remote ρ] (E : ClientError → ClientError → Prop) (s t : SystemHandle) :
    Prop where
  containers : ∀ u v : World ρ, (enumerate s u).1.Agrees E
    (fun cs ds => cs.map (fun c => (c.identifier, c.profile, c.isReady)) =
      ds.map fun d => (d.identifier, d.profile, d.isReady)) (enumerate t v).1
  container : ∀ (q : Query) (u v : World ρ), (find q s u).1.Agrees E Eq (find q t v).1
  containersByType : ∀ (name : String) (u v : World ρ),
    (findAll name s u).1.Agrees E Eq (findAll name t v).1
  processes : ∀ (i : Nat) (u u' v v' : World ρ),
    (onContainer i ContainerHandle.enumerate (enumerate s u).2.1 u').1.Agrees E Eq
      (onContainer i ContainerHandle.enumerate (enumerate t v).2.1 v').1

theorem find_byType_fst (name : String) (s : SystemHandle) (w : World ρ) :
    (find (.byType name) s w).1 =
      (enumerate s w).1.map (List.findIdx? (ContainerHandle.hasType name)) := by
  rw [find_byType, Action.bind_apply]
  rcases enumerate s w with ⟨_ | _ | _, t, v⟩ <;> rfl

theorem findAll_fst (name : String) (s : SystemHandle) (w : World ρ) :
    (findAll name s w).1 = (enumerate s w).1.map (positions name) := by
  rw [findAll_eq, Action.bind_apply]
  rcases enumerate s w with ⟨_ | _ | _, t, v⟩ <;> rfl

theorem positions_map_bare (name : String) (cs : List ContainerHandle) :
    positions name (cs.map bare) = positions name cs := by
  simp only [positions, List.length_map, List.getElem?_map, Option.map_map]
  rfl

theorem findIdx?_map_bare (name : String) (cs : List ContainerHandle) :
    (cs.map bare).findIdx? (ContainerHandle.hasType name) = cs.findIdx? (ContainerHandle.hasType name) := by
  rw [List.findIdx?_map]
  rfl

omit [Remote ρ] in
theorem onContainer_fst {ε α : Type} (i : Nat) (x : Action ρ ContainerHandle ε α) (s : SystemHandle)
    (w : World ρ) :
    (onContainer i x s w).1 =
      match s.containers.bind (·[i]?) with
      | some c => (x c w).1.map some
      | none => .done none := by
  unfold onContainer
  cases s.containers with
  | none => rfl
  | some cs =>
    rw [Option.bind_some]
    cases hc : cs[i]? with
    | none => simp only [hc]
    | some c =>
      simp only [hc]
      rcases x c w with ⟨_ | _ | _, d, v⟩ <;> rfl

/-- The processes of a container agree with those of the container as it was set up. -/
theorem onContainer_agrees (hfixed : Remote.Fixed ρ Answer.reply) (hrepeats : Remote.Repeats ρ E)
    {s t : SystemHandle} (hs : s.Faithful ρ) (hcovers : s.Covers t) (i : Nat) (u v : World ρ) :
    (onContainer i ContainerHandle.enumerate s u).1.Agrees E Eq
      (onContainer i ContainerHandle.enumerate t v).1 := by
  have hbare : t.containers.bind (·[i]?) = (s.containers.bind (·[i]?)).map bare := by
    rw [hcovers]
    cases s.containers with
    | none => rfl
    | some cs => simp
  rw [onContainer_fst, onContainer_fst, hbare]
  cases hc : s.containers.bind (·[i]?) with
  | none => exact .done rfl
  | some c =>
    obtain ⟨cs, hcs, hi⟩ := Option.bind_eq_some_iff.1 hc
    obtain ⟨profile, -, hlisted⟩ := hs.listed cs hcs
    have hfaithful := hlisted.2 c (List.mem_of_getElem? hi)
    refine (ContainerHandle.enumerate_agrees hfixed hrepeats hfaithful u v).map ?_
    rintro ps _ rfl
    rfl

theorem sameDiscovery (hfixed : Remote.Fixed ρ Answer.reply) (hrepeats : Remote.Repeats ρ E)
    {s : SystemHandle} (hs : s.Faithful ρ) {profile : SystemProfile} (hprofile : s.profile = some profile) :
    SameDiscovery ρ E s ⟨some profile, none⟩ where
  containers u v := by
    obtain ⟨h, -⟩ := enumerate_agrees hfixed hrepeats hs hprofile u v
    refine h.mono ?_
    rintro cs _ rfl
    rw [List.map_map]
    rfl
  container q u v := by
    obtain ⟨_ | name⟩ := q
    · exact .done rfl
    · show (find (.byType name) s u).1.Agrees E Eq (find (.byType name) _ v).1
      rw [find_byType_fst, find_byType_fst]
      refine (enumerate_agrees hfixed hrepeats hs hprofile u v).1.map ?_
      rintro cs _ rfl
      exact (findIdx?_map_bare name cs).symm
  containersByType name u v := by
    rw [findAll_fst, findAll_fst]
    refine (enumerate_agrees hfixed hrepeats hs hprofile u v).1.map ?_
    rintro cs _ rfl
    exact (positions_map_bare name cs).symm
  processes i u u' v v' := by
    obtain ⟨-, hcovers⟩ := enumerate_agrees hfixed hrepeats hs hprofile u v
    have hs' : (enumerate s u).2.1.Faithful ρ :=
      (enumerate_step s u).keeps hs fun _ _ h => h.faithful hs
    exact onContainer_agrees hfixed hrepeats hs' hcovers i u' v'

/-! ## after every run -/

omit [Remote ρ] in
theorem document_of_receive {reply : Except ClientError Json.Value} {profile : SystemProfile}
    (h : receive reply = .ok profile) : reply = .ok profile.document := by
  unfold receive at h
  cases reply with
  | error e => cases h
  | ok document =>
    simp only [Except.bind, SystemProfile.ofDocument] at h
    cases hentries : SystemProfile.entries (SystemProfile.mapping? document) with
    | error e =>
      rw [hentries] at h
      cases h
    | ok pairs =>
      rw [hentries] at h
      cases h
      rfl

theorem setup_apply_of_reply {reply : Except ClientError Json.Value} {profile : SystemProfile}
    (hprofile : receive reply = .ok profile) {w : World ρ}
    (h : (Remote.answer w.remote (.fetch .system none)).1.map (·.reply) = some reply) (s : SystemHandle) :
    (setup s w).1 = .done profile ∧ (setup s w).2.1 = ⟨some profile, none⟩ := by
  obtain ⟨a, ha, rfl⟩ := Option.map_eq_some_iff.1 h
  obtain ⟨w', hask⟩ : ∃ w', w.exchange (.fetch .system none) = (some a.reply, w') := by
    simp only [World.exchange, World.send, ha]
    exact ⟨_, rfl⟩
  simp only [setup, Action.bind_apply, Action.ask_apply, hask, Action.log_apply, hprofile,
    Action.ofExcept_ok, Action.update_apply, Action.pure_apply, and_self]

/-- **Discovery agrees with rebuilding.** Take any run of a new system that ends with a profile, and another
new system whose setup receives the document of that profile. If the replies about containers and processes
are fixed, the two discover the same; and if the times of these replies are fixed as well, even the errors
are the same. -/
theorem run_new_sameDiscovery (hfixed : Remote.Fixed ρ Answer.reply) (ops : List Operation) (w w' : World ρ)
    {profile : SystemProfile} (hprofile : (run ops SystemHandle.new w).1.profile = some profile)
    (hdocument : (Remote.answer w'.remote (.fetch .system none)).1.map (·.reply) =
      some (.ok profile.document)) :
    (setup SystemHandle.new w').1 = .done profile ∧
    SameDiscovery ρ (fun _ _ => True) (run ops SystemHandle.new w).1 (setup SystemHandle.new w').2.1 ∧
    (Remote.Fixed ρ (fun a => (a.after, a.reply)) →
      SameDiscovery ρ Eq (run ops SystemHandle.new w).1 (setup SystemHandle.new w').2.1) := by
  have hs := run_new_faithful ops w
  obtain ⟨reply, -, hreceive⟩ := hs.received profile hprofile
  rw [document_of_receive hreceive] at hreceive
  obtain ⟨hdone, hstate⟩ := setup_apply_of_reply hreceive hdocument SystemHandle.new
  rw [hstate]
  refine ⟨hdone, ?_, fun htimed => ?_⟩
  · exact sameDiscovery hfixed (FanOut.repeats_of_replies hfixed) hs hprofile
  · exact sameDiscovery hfixed (FanOut.repeats_of_timed_replies htimed) hs hprofile

end SystemHandle

/-! ## a remote side with fixed documents -/

/-- A remote side whose documents of the system come one after another, while what it says of containers and
processes never changes. -/
structure Frozen (documents : Kind → Identifier → Except ClientError Json.Value) where
  system : List Json.Value

namespace Frozen

variable {documents : Kind → Identifier → Except ClientError Json.Value}

/-- The answer to a request, always at once. -/
def answer (r : Frozen documents) : (q : Request) → Option (Answer q.Reply) × Frozen documents
  | .fetch .system _ =>
    match r.system with
    | [] => (some ⟨0, .error (.status "frozen://system" 404), []⟩, r)
    | document :: rest => (some ⟨0, .ok document, []⟩, ⟨rest⟩)
  | .fetch kind id => (some ⟨0, documents kind (id.getD ⟨""⟩), []⟩, r)
  | .list _ => (some ⟨0, .ok [], []⟩, r)
  | .call _ _ => (some ⟨0, none, []⟩, r)
  | .execute _ => (some ⟨0, none, []⟩, r)

instance : Remote (Frozen documents) where
  answer := answer

theorem fixed {β : Type} (view : Answer (Except ClientError Json.Value) → β) :
    Remote.Fixed (Frozen documents) view := by
  intro kind id hkind r r'
  cases kind with
  | system => exact absurd rfl hkind
  | container => rfl
  | process => rfl

/-- An arm that names its grip twice, a base, and nothing else. -/
def workshop : Kind → Identifier → Except ClientError Json.Value
  | .container, ⟨"a"⟩ =>
    .ok (.object [("type_name", .string "arm"), ("processes", .array [.string "g", .string "g"])])
  | .container, ⟨"b"⟩ => .ok (.object [("type_name", .string "base")])
  | .process, ⟨"g"⟩ => .ok (.object [("type_name", .string "grip")])
  | kind, id => .error (.status ("frozen://" ++ kind.className ++ "/" ++ id.text) 404)

/-- The document of a system that lists containers. -/
def listing (ids : List String) : Json.Value := .object [("containers", .object (ids.map (·, .null)))]

/-- The workshop lists the arm, then the base before it, and then a container that it does not know. -/
def workshopWorld : World (Frozen workshop) := .start ⟨[listing ["a"], listing ["b", "a"], listing ["c"]]⟩

/-- The same workshop, which lists the base and the arm at once. -/
def workshopAnew : World (Frozen workshop) := .start ⟨[listing ["b", "a"]]⟩

/-- Two refreshes of enumerated containers, the second of which fails. -/
def workshopOperations : List SystemHandle.Operation :=
  [.setup, .containers, .onContainer 0 .processes, .refresh, .refresh]

theorem workshop_sameDiscovery :
    ∃ profile, profile.containerIds = [⟨"b"⟩, ⟨"a"⟩] ∧
      (SystemHandle.run workshopOperations SystemHandle.new workshopWorld).1.profile = some profile ∧
      (SystemHandle.run workshopOperations SystemHandle.new workshopWorld).1.containers.map
        (List.map fun c => (c.identifier, c.processes.map List.length)) =
          some [(⟨"b"⟩, none), (⟨"a"⟩, some 2)] ∧
      SystemHandle.SameDiscovery (Frozen workshop) Eq
        (SystemHandle.run workshopOperations SystemHandle.new workshopWorld).1
        (SystemHandle.setup SystemHandle.new workshopAnew).2.1 := by
  have hprofile : (SystemHandle.run workshopOperations SystemHandle.new workshopWorld).1.profile =
      some ⟨[(⟨"b"⟩, .null), (⟨"a"⟩, .null)], listing ["b", "a"], by decide⟩ := by
    with_unfolding_all rfl
  obtain ⟨-, -, htimed⟩ := SystemHandle.run_new_sameDiscovery (fixed Answer.reply) workshopOperations
    workshopWorld workshopAnew hprofile rfl
  exact ⟨_, rfl, hprofile, by with_unfolding_all rfl, htimed (fixed _)⟩

end Frozen

end ProcessGraph
