import Mathlib.Data.List.Induction
import ProcessGraph.Fixture.Server

/-!
# Fixture servers as stores with a log

* `Fixture.latest`: the answer stored last for a slot.
* `Fixture.Ask`: a read or an invocation on a known route, as it arrives.
* `Fixture.Ask.Designates`: the slot that a request asks for.
* `Fixture.Server.serve_ask`: one request changes nothing but the log.
* `Fixture.Server.run_eq`: a server after any moves is given by its stores and its requests.
* `Fixture.Server.faithful_store`: each answer is made of what was stored last for its own slot, and the log lists
  the requests, no more and no less.
-/

namespace ProcessGraph.Fixture

/-! ## what was stored last -/

/-- The answer stored last for a slot. -/
def latest (slot : Slot) (stores : List (Slot × Response)) : Option Response :=
  (stores.reverse.find? fun s => s.1 = slot).map Prod.snd

theorem latest_concat (slot : Slot) (stores : List (Slot × Response)) (slot' : Slot) (r : Response) :
    latest slot (stores ++ [(slot', r)]) = if slot' = slot then some r else latest slot stores := by
  rw [latest, List.reverse_append, List.reverse_singleton, List.singleton_append, List.find?_cons]
  by_cases h : slot' = slot
  · simp [h]
  · simp [h, latest]

/-- A store to another slot is not seen. -/
theorem latest_of_ne {slot slot' : Slot} (h : slot' ≠ slot) (before after : List (Slot × Response))
    (r : Response) : latest slot (before ++ (slot', r) :: after) = latest slot (before ++ after) := by
  simp [latest, List.find?_append, h]

theorem ofPairs_concat (stores : List (Slot × Response)) (slot : Slot) (r : Response) :
    ofPairs (stores ++ [(slot, r)]) = (ofPairs stores).set slot r := by
  simp [ofPairs]

/-- **A fixture is a map from slots to what was stored last for them.** -/
theorem get?_ofPairs (slot : Slot) (stores : List (Slot × Response)) :
    (ofPairs stores).get? slot = latest slot stores := by
  induction stores using List.reverseRecOn with
  | nil => exact get?_empty slot
  | append_singleton stores s ih =>
    obtain ⟨slot', r⟩ := s
    rw [ofPairs_concat, get?_set, latest_concat, ih]

/-! ## requests on known routes -/

/-- A read or an invocation that names a class and a function, and at most one identifier. The body of an
invocation is within the limit. -/
structure Ask where
  arrival : Arrival
  segments : List Char × List Char
  className : String
  function : String
  identifier : Option String
  routed : Server.segments? arrival.target.path = some segments
  addressed : Server.addressOf segments arrival.target.query = .ok (className, function, identifier)
  served : arrival.method = "GET" ∨
    arrival.method = "PATCH" ∧ ∃ body, arrival.body = some body ∧ body.length ≤ Server.maxBody

namespace Ask

/-- Is the request a read? -/
def isRead (q : Ask) : Bool := q.arrival.method = "GET"

/-- The slot that a request asks for: that of an entity or a class for a read, that of a process for an
invocation, whichever its function. -/
inductive Designates (q : Ask) : Slot → Prop where
  | system (hread : q.isRead) (hclass : q.className = "system") (hfunction : q.function = "profile_full") :
      q.Designates .system
  | container (id : String) (hread : q.isRead) (hclass : q.className = "container")
      (hfunction : q.function = "profile_full") (hid : q.identifier = some id) : q.Designates (.container id)
  | process (id : String) (hread : q.isRead) (hclass : q.className = "container_process")
      (hfunction : q.function = "profile_full") (hid : q.identifier = some id) : q.Designates (.process id)
  | list (hread : q.isRead) (hfunction : q.function = "list") : q.Designates (.list q.className)
  | call (id : String) (hread : ¬ q.isRead) (hclass : q.className = "container_process")
      (hfunction : q.function = "call" ∨ q.function = "execute") (hid : q.identifier = some id) :
      q.Designates (.call id)

/-- The slot of a request, if it asks for one. -/
def slot? (q : Ask) : Option Slot :=
  if q.isRead then Slot.ofRead? q.className q.function q.identifier
  else if Server.isInvocation q.className q.function then q.identifier.map .call
  else none

theorem Designates.slot?_eq {q : Ask} {slot : Slot} (h : q.Designates slot) : q.slot? = some slot := by
  cases h with
  | system hread hclass hfunction => simp [slot?, hread, Slot.ofRead?, hclass, hfunction]
  | container id hread hclass hfunction hid => simp [slot?, hread, Slot.ofRead?, hclass, hfunction, hid]
  | process id hread hclass hfunction hid => simp [slot?, hread, Slot.ofRead?, hclass, hfunction, hid]
  | list hread hfunction => simp [slot?, hread, Slot.ofRead?, hfunction]
  | call id hread hclass hfunction hid => simp [slot?, hread, Server.isInvocation, hclass, hfunction, hid]

/-- A request asks for one slot at most. -/
theorem slot?_eq_some_iff {q : Ask} {slot : Slot} : q.slot? = some slot ↔ q.Designates slot := by
  refine ⟨fun h => ?_, Designates.slot?_eq⟩
  unfold slot? at h
  split at h
  next hread =>
    unfold Slot.ofRead? at h
    split at h
    next hfunction =>
      split at h
      next hclass =>
        obtain rfl := Option.some.inj h
        exact .system hread hclass hfunction
      split at h
      next hclass =>
        obtain ⟨id, hid, rfl⟩ := Option.map_eq_some_iff.1 h
        exact .container id hread hclass hfunction hid
      split at h
      next hclass =>
        obtain ⟨id, hid, rfl⟩ := Option.map_eq_some_iff.1 h
        exact .process id hread hclass hfunction hid
      · cases h
    split at h
    next hfunction =>
      obtain rfl := Option.some.inj h
      exact .list hread hfunction
    · cases h
  split at h
  next hread hinvocation =>
    obtain ⟨id, hid, rfl⟩ := Option.map_eq_some_iff.1 h
    simp only [Server.isInvocation, Bool.and_eq_true, decide_eq_true_eq, Bool.or_eq_true] at hinvocation
    exact .call id hread hinvocation.1 hinvocation.2 hid
  · cases h

/-- How a read is recorded. -/
def read? (q : Ask) : Option String :=
  if q.isRead then some (Server.readRecord q.className q.function q.identifier) else none

/-- How an invocation is recorded. -/
def call? (q : Ask) : Option RecordedCall :=
  if q.isRead ∨ ¬ Server.isInvocation q.className q.function then none
  else
    q.identifier.map fun id =>
      ⟨q.function, id, (Json.Value.ofBytes? (q.arrival.body.getD [])).getD .null,
        Http.headerText? Http.contentTypeName q.arrival.headers, Http.headerText? "accept" q.arrival.headers⟩

/-- The response to a request, by what is kept for its slot. -/
def response (q : Ask) (kept : Slot → Option Response) : Http.Response :=
  match q.slot? with
  | some slot => Server.sendable (Server.respond (kept slot))
  | none =>
    if q.isRead ∨ ¬ Server.isInvocation q.className q.function then Response.blank 404 else Response.blank 400

end Ask

namespace Server

theorem sendable_blank (code : Nat) (h : 200 ≤ code) : sendable (Response.blank code) = Response.blank code := by
  have h' : ¬ (code < 200 ∧ code ≠ 101) := by omega
  exact (if_neg h').trans (ite_self _)

/-- A read is served as such. -/
theorem serve_of_isRead (s : Server) {q : Ask} (h : q.isRead) :
    s.serve q.arrival =
      (sendable (s.read q.className q.function q.identifier).1, (s.read q.className q.function q.identifier).2) := by
  have hget : q.arrival.method = "GET" := by simpa [Ask.isRead] using h
  rw [serve, q.routed]
  simp [serveRoute, q.addressed, hget]

/-- An invocation is served as such. -/
theorem serve_of_not_isRead (s : Server) {q : Ask} (h : ¬ q.isRead) :
    s.serve q.arrival =
      (sendable (s.invoke q.className q.function q.identifier q.arrival.headers (q.arrival.body.getD [])).1,
        (s.invoke q.className q.function q.identifier q.arrival.headers (q.arrival.body.getD [])).2) := by
  have hget : q.arrival.method ≠ "GET" := by simpa [Ask.isRead] using h
  obtain ⟨hpatch, body, hbody, hlength⟩ := q.served.resolve_left hget
  rw [serve, q.routed]
  simp [serveRoute, q.addressed, hpatch, hbody, Nat.not_lt.2 hlength]

/-- **A request changes nothing but the log**, and its answer is made of what is kept for its slot. -/
theorem serve_ask (s : Server) (q : Ask) :
    s.serve q.arrival = (q.response s.fixture.get?,
      { s with reads := s.reads ++ q.read?.toList, calls := s.calls ++ q.call?.toList }) := by
  by_cases hread : q.isRead
  · rw [serve_of_isRead s hread]
    simp only [read, Ask.response, Ask.slot?, Ask.read?, Ask.call?, hread, if_true, true_or, Option.toList_some,
      Option.toList_none, List.append_nil]
    cases Slot.ofRead? q.className q.function q.identifier with
    | none => rw [Option.bind_none, respond, sendable_blank 404 (by decide)]
    | some slot => rfl
  · rw [serve_of_not_isRead s hread]
    simp only [invoke, Ask.response, Ask.slot?, Ask.read?, Ask.call?, hread]
    cases isInvocation q.className q.function with
    | false => simp [sendable_blank]
    | true => cases q.identifier <;> simp [sendable_blank]

end Server

/-! ## any moves -/

/-- What can happen to a server: an answer is stored, or a request is served. -/
inductive Move where
  | store (slot : Slot) (r : Response)
  | ask (q : Ask)

namespace Move

/-- What is stored. -/
def store? : Move → Option (Slot × Response)
  | store slot r => some (slot, r)
  | ask _ => none

/-- The read, as it is recorded. -/
def read? : Move → Option String
  | store _ _ => none
  | ask q => q.read?

/-- The invocation, as it is recorded. -/
def call? : Move → Option RecordedCall
  | store _ _ => none
  | ask q => q.call?

/-- The server after a move. -/
def apply (s : Server) : Move → Server
  | store slot r => s.set slot r
  | ask q => (s.serve q.arrival).2

end Move

namespace Server

/-- The server after moves, one at a time. -/
def run (ms : List Move) (s : Server) : Server := ms.foldl Move.apply s

/-- What one move makes of a server that is given by its stores and its log. -/
theorem apply_eq (m : Move) (stores : List (Slot × Response)) (reads : List String) (calls : List RecordedCall) :
    m.apply ⟨ofPairs stores, reads, calls⟩ =
      ⟨ofPairs (stores ++ m.store?.toList), reads ++ m.read?.toList, calls ++ m.call?.toList⟩ := by
  cases m with
  | store slot r => simp [Move.apply, Move.store?, Move.read?, Move.call?, set, ofPairs_concat]
  | ask q => simp [Move.apply, Move.store?, Move.read?, Move.call?, serve_ask]

/-- **A server after any moves** is given by all stores and all requests. -/
theorem run_eq (ms : List Move) (stores : List (Slot × Response)) (reads : List String)
    (calls : List RecordedCall) :
    run ms ⟨ofPairs stores, reads, calls⟩ =
      ⟨ofPairs (stores ++ ms.filterMap Move.store?), reads ++ ms.filterMap Move.read?,
        calls ++ ms.filterMap Move.call?⟩ := by
  induction ms generalizing stores reads calls with
  | nil => simp [run]
  | cons m ms ih =>
    have hfilter : ∀ {α : Type} (f : Move → Option α), (m :: ms).filterMap f = (f m).toList ++ ms.filterMap f := by
      intro α f
      rw [List.filterMap_cons]
      cases f m <;> rfl
    rw [run, List.foldl_cons, apply_eq, ← run, ih, hfilter, hfilter, hfilter, List.append_assoc, List.append_assoc,
      List.append_assoc]

theorem run_start (ms : List Move) (builds : List (Slot × Response)) :
    run ms (start (ofPairs builds)) =
      ⟨ofPairs (builds ++ ms.filterMap Move.store?), ms.filterMap Move.read?, ms.filterMap Move.call?⟩ := by
  rw [start, run_eq, List.nil_append, List.nil_append]

/-- The response to a request after any moves. -/
theorem serve_run (ms : List Move) (builds : List (Slot × Response)) (q : Ask) :
    ((run ms (start (ofPairs builds))).serve q.arrival).1 =
      q.response fun slot => latest slot (builds ++ ms.filterMap Move.store?) := by
  rw [run_start, serve_ask]
  exact congrArg q.response (funext fun slot => get?_ofPairs slot _)

/-- **A fixture server is a faithful store with an exact log.** After it was built and whatever happened to it since,
its answer to a request is made of what was stored last for the slot of the request, or there is none; a read
that asks for no slot has no answer; a store to another slot is not seen, whenever it was made; and the log lists
the reads and the invocations that came, in their order. -/
theorem faithful_store (builds : List (Slot × Response)) :
    (∀ ms (q : Ask) slot, q.Designates slot →
      ((run ms (start (ofPairs builds))).serve q.arrival).1 =
        sendable (match latest slot (builds ++ ms.filterMap Move.store?) with
          | some r => r.toHttp
          | none => Response.blank 404)) ∧
    (∀ ms (q : Ask), q.isRead → (∀ slot, ¬ q.Designates slot) →
      ((run ms (start (ofPairs builds))).serve q.arrival).1 = Response.blank 404) ∧
    (∀ before after (q : Ask) slot slot' r, q.Designates slot → slot' ≠ slot →
      ((run (before ++ .store slot' r :: after) (start (ofPairs builds))).serve q.arrival).1 =
        ((run (before ++ after) (start (ofPairs builds))).serve q.arrival).1) ∧
    (∀ ms, (run ms (start (ofPairs builds))).reads = ms.filterMap Move.read?) ∧
    (∀ ms, (run ms (start (ofPairs builds))).calls = ms.filterMap Move.call?) := by
  refine ⟨fun ms q slot h => ?_, fun ms q hread h => ?_, fun before after q slot slot' r h hne => ?_, fun ms => ?_,
    fun ms => ?_⟩
  · have hrespond (kept : Option Response) : respond kept = (match kept with
        | some r => r.toHttp
        | none => Response.blank 404) := by
      cases kept <;> rfl
    rw [serve_run, Ask.response, h.slot?_eq]
    exact congrArg sendable (hrespond _)
  · have hslot : q.slot? = none := Option.eq_none_iff_forall_ne_some.2 fun slot hslot =>
      h slot (Ask.slot?_eq_some_iff.1 hslot)
    simp [serve_run, Ask.response, hslot, hread]
  · rw [serve_run, serve_run, Ask.response, Ask.response, h.slot?_eq]
    simp only [List.filterMap_append, List.filterMap_cons, Move.store?, ← List.append_assoc, latest_of_ne hne]
  · rw [run_start]
  · rw [run_start]

/-- A read of the container `a`. -/
def containerRead : Ask where
  arrival := ⟨"GET", ⟨"/api/container/profile_full".toList, "identifier=a".toList⟩, [], none⟩
  segments := ("container".toList, "profile_full".toList)
  className := "container"
  function := "profile_full"
  identifier := some "a"
  routed := by decide +kernel
  addressed := by with_unfolding_all rfl
  served := .inl rfl

/-- A read with an unknown function. -/
def unknownRead : Ask where
  arrival := ⟨"GET", ⟨"/api/container/tree".toList, "identifier=a".toList⟩, [], none⟩
  segments := ("container".toList, "tree".toList)
  className := "container"
  function := "tree"
  identifier := some "a"
  routed := by decide +kernel
  addressed := by with_unfolding_all rfl
  served := .inl rfl

/-- A container, a process and the calls of a process, all of one name. -/
def sameName : List (Slot × Response) :=
  [(.container "a", .status 200), (.process "a", .status 500), (.call "a", .status 503)]

theorem faithful_store_sameName :
    (containerRead.Designates (.container "a") ∧
      ((run [] (start (ofPairs sameName))).serve containerRead.arrival).1 = Response.blank 200) ∧
    (unknownRead.isRead ∧ (∀ slot, ¬ unknownRead.Designates slot) ∧
      ((run [] (start (ofPairs sameName))).serve unknownRead.arrival).1 = Response.blank 404) ∧
    (Slot.call "a" ≠ .container "a" ∧
      ((run ([] ++ .store (.call "a") (.status 404) :: []) (start (ofPairs sameName))).serve
          containerRead.arrival).1 =
        ((run ([] ++ []) (start (ofPairs sameName))).serve containerRead.arrival).1) := by
  obtain ⟨hanswer, hnone, hframe, -, -⟩ := faithful_store sameName
  have hcontainer : containerRead.Designates (.container "a") := .container "a" rfl rfl rfl rfl
  have hunknown : ∀ slot, ¬ unknownRead.Designates slot := by
    intro slot hslot
    cases hslot.slot?_eq
  refine ⟨⟨hcontainer, hanswer [] _ _ hcontainer⟩, ⟨rfl, hunknown, hnone [] _ rfl hunknown⟩, by decide, ?_⟩
  exact hframe [] [] _ _ _ _ hcontainer (by decide)

end Server

end ProcessGraph.Fixture
