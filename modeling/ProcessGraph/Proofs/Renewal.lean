import Mathlib.Data.List.Nodup
import ProcessGraph.Proofs.Siblings
import ProcessGraph.Script

/-!
# What a refresh makes of cached containers

* `SystemHandle.absent`: the identifiers of a profile that no cached container has.
* `SystemHandle.renewal`: the container of an identifier after a refresh, looked up among the cached ones and
  opened where there is none.
* `SystemHandle.Supplies`: the remote side answers a refresh and opens every absent container.
* `SystemHandle.refresh_supplied`: the refresh then leaves the renewals of the listed identifiers, and it makes
  one request for each that was absent.
* `SystemHandle.refresh_exact`: the same for every state that a run can reach, for a second refresh, and for
  containers that come back.
-/

namespace ProcessGraph

variable {ρ : Type}

/-- A container that was just opened. -/
def ContainerHandle.opened (id : Identifier) (profile : ContainerProfile) : ContainerHandle :=
  ⟨id, some profile, none⟩

namespace SystemHandle

/-- The listed identifiers that no cached container has, in the order of the profile. -/
def absent (profile : SystemProfile) (cached : List ContainerHandle) : List Identifier :=
  profile.containerIds.filter fun id => id ∉ cached.map (·.identifier)

/-- The container of an identifier after a refresh: the cached one, or, if there is none, a new one with the
profile that was fetched for it. -/
def renewal (cached : List ContainerHandle) (profiles : Identifier → ContainerProfile) (id : Identifier) :
    ContainerHandle :=
  (cached.find? fun c => c.identifier = id).getD (.opened id (profiles id))

/-! ## the containers of some identifiers -/

theorem added_eq_absent (profile : SystemProfile) (cached : List ContainerHandle) :
    added profile cached = absent profile cached := by
  refine List.filter_congr fun id _ => ?_
  rw [Bool.eq_iff_iff]
  simp

theorem mem_absent_iff {profile : SystemProfile} {cached : List ContainerHandle} {id : Identifier} :
    id ∈ absent profile cached ↔ id ∈ profile.containerIds ∧ id ∉ cached.map (·.identifier) := by
  simp [absent]

theorem absent_of_map_identifier {profile : SystemProfile} {cached : List ContainerHandle}
    (h : cached.map (·.identifier) = profile.containerIds) : absent profile cached = [] := by
  rw [absent, h]
  simp

/-- Out of containers with distinct identifiers, those of some identifiers are determined. -/
theorem eq_map_of_listed {pool cs : List ContainerHandle} {ids : List Identifier}
    {f : Identifier → ContainerHandle} (hnodup : (pool.map (·.identifier)).Nodup)
    (hf : ∀ id ∈ ids, f id ∈ pool ∧ (f id).identifier = id)
    (h : Listed ContainerHandle.identifier (· ∈ pool) ids cs) : cs = ids.map f := by
  obtain ⟨rfl, hpool⟩ := h
  rw [List.map_map]
  refine (List.map_id cs).symm.trans (List.map_congr_left fun c hc => ?_)
  obtain ⟨hmem, hid⟩ := hf c.identifier (List.mem_map_of_mem hc)
  exact List.inj_on_of_nodup_map hnodup (hpool c hc) hmem hid.symm

section

variable {cached : List ContainerHandle} {profiles : Identifier → ContainerProfile} {id : Identifier}

theorem identifier_renewal : (renewal cached profiles id).identifier = id := by
  unfold renewal
  cases hfind : cached.find? fun c => c.identifier = id with
  | none => rfl
  | some c => simpa using List.find?_some hfind

/-- The renewal of a cached identifier is in the cache. -/
theorem renewal_mem (h : id ∈ cached.map (·.identifier)) : renewal cached profiles id ∈ cached := by
  unfold renewal
  cases hfind : cached.find? fun c => c.identifier = id with
  | none =>
    obtain ⟨c, hc, rfl⟩ := List.mem_map.1 h
    simpa using List.find?_eq_none.1 hfind c hc
  | some c => exact List.mem_of_find?_eq_some hfind

theorem renewal_of_not_mem (h : id ∉ cached.map (·.identifier)) :
    renewal cached profiles id = .opened id (profiles id) := by
  rw [renewal, List.find?_eq_none.2, Option.getD_none]
  intro c hc hid
  exact h (List.mem_map.2 ⟨c, hc, by simpa using hid⟩)

/-- Containers that all are cached are renewed by themselves. -/
theorem map_renewal_self (hnodup : (cached.map (·.identifier)).Nodup) :
    (cached.map (·.identifier)).map (renewal cached profiles) = cached :=
  (eq_map_of_listed hnodup (fun _ hid => ⟨renewal_mem hid, identifier_renewal⟩) ⟨rfl, fun _ hc => hc⟩).symm

end

/-! ## one refresh -/

/-- The remote side answers a refresh by the document of a profile, and then the fetch of each absent container
by a document of its profile. -/
structure Supplies [Remote ρ] (w : World ρ) (document : Json.Value) (profile : SystemProfile)
    (cached : List ContainerHandle) (profiles : Identifier → ContainerProfile) : Prop where
  reply : (w.exchange (.fetch .system none)).1 = some (.ok document)
  listing : SystemProfile.ofDocument document = .ok profile
  replies : List.Forall₂
    (fun id reply => ∃ document, reply = some (.ok document) ∧
      ContainerProfile.ofDocument document = .ok (profiles id))
    (absent profile cached)
    (FanOut.replies ((absent profile cached).map ContainerHandle.opening)
      (w.exchange (.fetch .system none)).2.remote)

theorem reads_of_replies {profiles : Identifier → ContainerProfile} {ids : List Identifier}
    {replies : List (Option (Except ClientError Json.Value))}
    (h : List.Forall₂ (fun id reply => ∃ document, reply = some (.ok document) ∧
      ContainerProfile.ofDocument document = .ok (profiles id)) ids replies) :
    List.Forall₂ (fun p c => ∃ document, p.2 = some (.ok document) ∧ ContainerHandle.Reads p.1 document c)
      (ids.zip replies) (ids.map fun id => .opened id (profiles id)) := by
  induction h with
  | nil => exact .nil
  | cons hreply _ ih =>
    obtain ⟨document, hdocument, hprofile⟩ := hreply
    exact .cons ⟨document, hdocument, _, hprofile, rfl⟩ ih

/-- The same documents are read as the same containers. -/
theorem reads_rightUnique :
    Relator.RightUnique (fun (p : Identifier × Option (Except ClientError Json.Value)) c =>
      ∃ document, p.2 = some (.ok document) ∧ ContainerHandle.Reads p.1 document c) := by
  rintro ⟨id, reply⟩ c d ⟨document, rfl, profile, hprofile, rfl⟩ ⟨document', hdocument', profile', hprofile', rfl⟩
  cases hdocument'
  cases hprofile.symm.trans hprofile'
  rfl

/-- **A refresh that is supplied** leaves the renewal of every listed identifier, and it makes one request for
the system and one for each absent container. -/
theorem refresh_supplied [Remote ρ] (old : SystemProfile) {cached : List ContainerHandle}
    (hnodup : (cached.map (·.identifier)).Nodup) {w : World ρ} {document : Json.Value}
    {profile : SystemProfile} {profiles : Identifier → ContainerProfile}
    (h : Supplies w document profile cached profiles) :
    ∃ v, refresh ⟨some old, some cached⟩ w =
        (.done profile, ⟨some profile, some (profile.containerIds.map (renewal cached profiles))⟩, v) ∧
      v.requests = w.requests ++
        .fetch .system none :: (absent profile cached).map fun id => .fetch .container (some id) := by
  obtain ⟨hreply, hlisting, hreplies⟩ := h
  obtain ⟨made, o, hmade, hgathered, hrefreshed⟩ :=
    refresh_gathered old cached (Prod.ext hreply rfl) hlisting
  rw [added_eq_absent] at hgathered
  have hreads := reads_of_replies hreplies
  obtain ⟨fresh, rfl⟩ := hgathered.done_iff.2 fun p hp =>
    exists_comm.1 (exists_forall₂_iff.1 ⟨_, hreads⟩ p hp)
  obtain ⟨rfl, hfresh⟩ := hgathered.done fresh rfl
  obtain rfl := reads_rightUnique.forall₂ hfresh hreads
  have hids : ((absent profile cached).map fun id => ContainerHandle.opened id (profiles id)).map
      (·.identifier) = absent profile cached := by
    rw [List.map_map]
    exact List.map_id _
  generalize hresult : refresh ⟨some old, some cached⟩ w = result at hmade hrefreshed
  obtain ⟨outcome, t, v⟩ := result
  cases hrefreshed with
  | @done fresh cs hlisted =>
    refine ⟨v, ?_, hmade⟩
    rw [eq_map_of_listed ?_ ?_ hlisted]
    · rw [List.map_append, hids]
      refine hnodup.append (profile.nodup.filter _) fun id hold hnew => ?_
      exact (mem_absent_iff.1 hnew).2 hold
    · intro id hid
      refine ⟨List.mem_append.2 ?_, identifier_renewal⟩
      by_cases hold : id ∈ cached.map (·.identifier)
      · exact .inl (renewal_mem hold)
      · rw [renewal_of_not_mem hold]
        exact .inr (List.mem_map.2 ⟨id, mem_absent_iff.2 ⟨hid, hold⟩, rfl⟩)

/-! ## refreshes of states that a run reaches -/

theorem Faithful.map_identifier [Remote ρ] {profile : SystemProfile} {cached : List ContainerHandle}
    (h : (⟨some profile, some cached⟩ : SystemHandle).Faithful ρ) :
    cached.map (·.identifier) = profile.containerIds := by
  obtain ⟨_, ⟨⟩, hids, -⟩ := h.coherent cached rfl
  exact hids

/-- A refresh that is supplied with the profile that it has leaves the system as it is, and it makes one
request. -/
theorem refresh_again [Remote ρ] {profile : SystemProfile} {cached : List ContainerHandle}
    (hids : cached.map (·.identifier) = profile.containerIds) {w : World ρ} {document : Json.Value}
    (hreply : (w.exchange (.fetch .system none)).1 = some (.ok document))
    (hlisting : SystemProfile.ofDocument document = .ok profile) :
    ∃ v, refresh ⟨some profile, some cached⟩ w = (.done profile, ⟨some profile, some cached⟩, v) ∧
      v.requests = w.requests ++ [.fetch .system none] := by
  have hnodup : (cached.map (·.identifier)).Nodup := hids ▸ profile.nodup
  have habsent := absent_of_map_identifier hids
  -- nothing is absent, so that no profile matters
  have hsupplies : Supplies w document profile cached fun _ => ⟨"", [], []⟩ :=
    ⟨hreply, hlisting, by rw [habsent]; exact .nil⟩
  obtain ⟨v, hrefresh, hmade⟩ := refresh_supplied profile hnodup hsupplies
  rw [← hids, map_renewal_self hnodup] at hrefresh
  rw [habsent] at hmade
  exact ⟨v, hrefresh, hmade⟩

/-- **A refresh of enumerated containers is exact.** In every state that a run can reach, a refresh that is
supplied leaves, for each listed identifier and in their order, the very container that was cached for it, or
else a new one without processes. It fetches the system and then the absent containers. The same document
once more changes nothing and costs one request. A container that a later state does not list is opened anew
when it comes back. -/
theorem refresh_exact [Remote ρ] (ops : List Operation) (w₀ : World ρ) {old : SystemProfile}
    {cached : List ContainerHandle} (hstate : (run ops SystemHandle.new w₀).1 = ⟨some old, some cached⟩)
    {w : World ρ} {document : Json.Value} {profile : SystemProfile}
    {profiles : Identifier → ContainerProfile} (h : Supplies w document profile cached profiles) :
    ∃ cs v, refresh ⟨some old, some cached⟩ w = (.done profile, ⟨some profile, some cs⟩, v) ∧
      cs = profile.containerIds.map (renewal cached profiles) ∧
      (∀ c ∈ cached, renewal cached profiles c.identifier = c) ∧
      cs.map (·.identifier) = profile.containerIds ∧ (cs.map (·.identifier)).Nodup ∧
      v.requests = w.requests ++
        .fetch .system none :: (absent profile cached).map (fun id => .fetch .container (some id)) ∧
      (∀ w₁ : World ρ, (w₁.exchange (.fetch .system none)).1 = some (.ok document) →
        ∃ v₁, refresh ⟨some profile, some cs⟩ w₁ = (.done profile, ⟨some profile, some cs⟩, v₁) ∧
          v₁.requests = w₁.requests ++ [.fetch .system none]) ∧
      (∀ (ops₁ : List Operation) (w₁ w₂ : World ρ) old₁ cached₁ document₂ profile₂ profiles₂ id,
        (run ops₁ ⟨some profile, some cs⟩ w₁).1 = ⟨some old₁, some cached₁⟩ → id ∉ old₁.containerIds →
        Supplies w₂ document₂ profile₂ cached₁ profiles₂ → id ∈ profile₂.containerIds →
        ∃ cs₂ v₂ made, refresh ⟨some old₁, some cached₁⟩ w₂ = (.done profile₂, ⟨some profile₂, some cs₂⟩, v₂) ∧
          .opened id (profiles₂ id) ∈ cs₂ ∧
          v₂.requests = w₂.requests ++ made ∧ .fetch .container (some id) ∈ made) := by
  have hs : (⟨some old, some cached⟩ : SystemHandle).Faithful ρ := hstate ▸ run_new_faithful ops w₀
  have hnodup : (cached.map (·.identifier)).Nodup := hs.map_identifier ▸ old.nodup
  obtain ⟨v, hrefresh, hmade⟩ := refresh_supplied old hnodup h
  have hids : (profile.containerIds.map (renewal cached profiles)).map (·.identifier) =
      profile.containerIds := by
    rw [List.map_map]
    exact (List.map_congr_left fun _ _ => identifier_renewal).trans (List.map_id _)
  refine ⟨_, v, hrefresh, rfl, fun c hc => ?_, hids, ?_, hmade, fun w₁ hreply => ?_, ?_⟩
  · exact List.inj_on_of_nodup_map hnodup (renewal_mem (List.mem_map_of_mem hc)) hc identifier_renewal
  · rw [hids]
    exact profile.nodup
  · exact refresh_again hids hreply h.listing
  · intro ops₁ w₁ w₂ old₁ cached₁ document₂ profile₂ profiles₂ id hstate₁ hid hsupplies hmem
    have ht := (Operation.perform_commits .refresh _ w).keeps hs fun _ _ hstep => hstep.faithful hs
    rw [Operation.perform, Action.bind_apply, hrefresh] at ht
    have hs₁ : (⟨some old₁, some cached₁⟩ : SystemHandle).Faithful ρ :=
      hstate₁ ▸ run_keeps (fun _ _ hstep hs => hstep.faithful hs) ops₁ w₁ ht
    have hids₁ := hs₁.map_identifier
    obtain ⟨v₂, hrefresh₂, hmade₂⟩ := refresh_supplied old₁ (hids₁ ▸ old₁.nodup) hsupplies
    rw [← hids₁] at hid
    refine ⟨_, v₂, _, hrefresh₂, ?_, hmade₂, ?_⟩
    · exact List.mem_map.2 ⟨id, hmem, renewal_of_not_mem hid⟩
    · exact List.mem_cons_of_mem _ (List.mem_map.2 ⟨id, mem_absent_iff.2 ⟨hmem, hid⟩, rfl⟩)

end SystemHandle

/-! ## a workshop that is rebuilt -/

namespace Script

/-- The document of a system that lists containers. -/
def listing (ids : List String) : Json.Value := .object [("containers", .object (ids.map (·, .null)))]

/-- The profile of that document. -/
def listed (ids : List String) : SystemProfile :=
  ⟨Keyed.ofPairs (ids.map fun id => (⟨id⟩, .null)), listing ids, Keyed.nodup_keys_ofPairs _⟩

/-- The document of a container with a type and some processes. -/
def typed (name : String) (processes : List String) : Json.Value :=
  .object [("type_name", .string name), ("processes", .array (processes.map .string))]

/-- A remote side that lists two containers, one of them with a process. -/
def built : Script :=
  { Script.empty with
    system := [("", [.document (listing ["a", "d"])])]
    containers := [("a", [.document (typed "arm" ["p"])]), ("d", [.document (typed "dock" [])])]
    processes := [("p", [.document (.object [("type_name", .string "grip")])])] }

/-- A new container takes the place of the second one, and the first one is of another type now. -/
def rebuilt : Script :=
  { Script.empty with
    system := [("", [.document (listing ["b", "a"])])]
    containers := [("a", [.document (typed "lift" [])]), ("b", [.document (typed "base" [])])] }

/-- The second container is back, as another type. -/
def restored : Script :=
  { Script.empty with
    system := [("", [.document (listing ["a", "d", "b"])])]
    containers := [("d", [.document (typed "deck" [])])] }

end Script

namespace SystemHandle

/-- The arm with its grip. -/
def grippedArm : ContainerHandle :=
  ⟨⟨"a"⟩, some ⟨"arm", [⟨"p"⟩], []⟩, some [⟨⟨"p"⟩, some ⟨"grip", []⟩⟩]⟩

/-- The system before it was rebuilt. -/
def builtSystem : SystemHandle :=
  ⟨some (Script.listed ["a", "d"]), some [grippedArm, .opened ⟨"d"⟩ ⟨"dock", [], []⟩]⟩

/-- The system afterwards. -/
def rebuiltSystem : SystemHandle :=
  ⟨some (Script.listed ["b", "a"]), some [.opened ⟨"b"⟩ ⟨"base", [], []⟩, grippedArm]⟩

theorem refresh_exact_rebuilt :
    (∃ v, refresh builtSystem (.start Script.rebuilt) =
        (.done (Script.listed ["b", "a"]), rebuiltSystem, v) ∧
      v.requests = [.fetch .system none, .fetch .container (some ⟨"b"⟩)]) ∧
    (∃ v, refresh rebuiltSystem (.start Script.rebuilt) =
        (.done (Script.listed ["b", "a"]), rebuiltSystem, v) ∧
      v.requests = [.fetch .system none]) ∧
    (∃ cs v made, refresh rebuiltSystem (.start Script.restored) =
        (.done (Script.listed ["a", "d", "b"]), ⟨some (Script.listed ["a", "d", "b"]), some cs⟩, v) ∧
      .opened ⟨"d"⟩ ⟨"deck", [], []⟩ ∈ cs ∧ v.requests = made ∧ .fetch .container (some ⟨"d"⟩) ∈ made) := by
  have hstate : (run [.setup, .containers, .onContainer 0 .processes] SystemHandle.new (.start Script.built)).1 =
      ⟨some (Script.listed ["a", "d"]), some [grippedArm, .opened ⟨"d"⟩ ⟨"dock", [], []⟩]⟩ := by
    with_unfolding_all rfl
  have hrebuilt : Supplies (.start Script.rebuilt) (Script.listing ["b", "a"]) (Script.listed ["b", "a"])
      [grippedArm, .opened ⟨"d"⟩ ⟨"dock", [], []⟩] fun _ => ⟨"base", [], []⟩ :=
    ⟨rfl, rfl, .cons ⟨Script.typed "base" [], rfl, rfl⟩ .nil⟩
  have hrestored : Supplies (.start Script.restored) (Script.listing ["a", "d", "b"])
      (Script.listed ["a", "d", "b"]) [.opened ⟨"b"⟩ ⟨"base", [], []⟩, grippedArm] fun _ => ⟨"deck", [], []⟩ :=
    ⟨rfl, rfl, .cons ⟨Script.typed "deck" [], rfl, rfl⟩ .nil⟩
  obtain ⟨_, v, hrefresh, rfl, -, -, -, hmade, hagain, hback⟩ := refresh_exact _ _ hstate hrebuilt
  refine ⟨⟨v, hrefresh, hmade⟩, hagain _ rfl, ?_⟩
  exact hback [] (.start Script.restored) _ _ _ _ _ _ ⟨"d"⟩ rfl (by decide) hrestored (by decide)

end SystemHandle

end ProcessGraph
