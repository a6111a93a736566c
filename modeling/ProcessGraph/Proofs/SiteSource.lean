import ProcessGraph.Proofs.SiteExchanges

/-!
# A connection to a fixture server is its fixture

* `Request.slot?`, `Request.read?`, `Request.call?`: what a request asks for, and how it is logged.
* `Fixture.reply`: what a fixture of documents answers to a request.
* `Gateway.Fits`: requests that keep to the limits of messages.
* `Connection.answer_site`: such a request is answered by the fixture, and logged.
* `Connection.after_site`: requests change nothing but the log.
* `Connection.source_is_fixture`: so a connection to a fixture server is the fixture.
* `Connection.answer_fetch_of_long`, `Connection.answer_call_of_large`: the limits cannot be left out.
-/

namespace ProcessGraph

/-! ## requests and their slots -/

namespace Request

/-- The kind of what is asked. -/
def kind : Request → Kind
  | fetch kind _ => kind
  | list kind => kind
  | call _ _ => .process
  | execute _ => .process

/-- The function that is asked for. -/
def function : Request → Function
  | fetch _ _ => .profile
  | list _ => .list
  | call _ _ => .call
  | execute _ => .execute

/-- The identifier of what is asked. -/
def identifier? : Request → Option Identifier
  | fetch _ id => id
  | list _ => none
  | call id _ => some id
  | execute id => some id

/-- The arguments of an invocation. -/
def args? : Request → Option Json.Value
  | fetch _ _ => none
  | list _ => none
  | call _ args => some args
  | execute _ => some .emptyObject

/-- The slot of a request, if there can be one. -/
def slot? : Request → Option Fixture.Slot
  | fetch .system _ => some .system
  | fetch .container id => id.map fun id => .container id.text
  | fetch .process id => id.map fun id => .process id.text
  | list kind => some (.list kind.className)
  | call id _ => some (.call id.text)
  | execute id => some (.call id.text)

/-- How a read is recorded. -/
def read? : Request → Option String
  | fetch kind id => some (Fixture.Server.readRecord kind.className "profile_full" (id.map Identifier.text))
  | list kind => some (Fixture.Server.readRecord kind.className "list" none)
  | call _ _ => none
  | execute _ => none

/-- How an invocation is recorded. -/
def call? : Request → Option Fixture.RecordedCall
  | fetch _ _ => none
  | list _ => none
  | call id args => some ⟨"call", id.text, args, some "application/json", some "*/*"⟩
  | execute id => some ⟨"execute", id.text, .emptyObject, some "application/json", some "*/*"⟩

end Request

namespace Connection

open Fixture

variable {s : Site} {α : Type}

/-- What a site answers is interpreted, if the URL is not too long. -/
theorem exchange_sent {kind : Kind} {function : Function} {id : Option Identifier} {r : Http.Request}
    (hurl : r.url = s.url kind function id) (hlength : (s.url kind function id).chars.length ≤ Http.maxTargetLength)
    {o : Http.Outcome} {s' : Site} (h : s.exchange r = (some o, s')) (interpret : Http.Outcome → α × List Log.Event) :
    (⟨s.gateway, s⟩ : Connection Site).exchange r interpret =
      (some ⟨exchangeTime, (interpret o).1, (interpret o).2⟩, ⟨s.gateway, s'⟩) := by
  have hsend : r.canSend := by
    rw [s.canSend_site hurl]
    exact decide_eq_true hlength
  have hpeer : Http.Peer.exchange s r = s.exchange r := rfl
  unfold exchange
  simp only [hsend, if_true, hpeer, h]
  rfl

/-- A read from a site. -/
theorem read_site (s : Site) (hup : s.isUp) (hport : s.port < 65536) (hdocs : s.server.fixture.Documents) (kind : Kind)
    (function : Function) (id : Option Identifier)
    (hlength : (s.url kind function id).chars.length ≤ Http.maxTargetLength)
    (interpret : String → Http.Outcome → Except ClientError α) :
    (⟨s.gateway, s⟩ : Connection Site).read kind function id interpret =
      (some ⟨exchangeTime, interpret (s.url kind function id).text (.response (documentResponse
          ((Slot.ofRead? kind.className function.name (id.map Identifier.text)).bind s.server.fixture.document?))), []⟩,
        ⟨s.gateway, s.logged [Server.readRecord kind.className function.name (id.map Identifier.text)] []⟩) := by
  have hdirected := Site.Directed.read s kind function id
  have hbody : ([] : Text.Bytes).length ≤ Server.maxBody := Nat.zero_le _
  have hexchange := hdirected.exchange_eq hup hport hlength hbody
  rw [hdirected.response_of_slot? hbody hdocs (.inl rfl), hdirected.ask_slot?, hdirected.ask_read?,
    hdirected.ask_call?_of_get hbody rfl] at hexchange
  unfold read
  simp only [s.route_site hport, s.readRequest_site]
  rw [exchange_sent rfl hlength hexchange]
  rfl

/-- An invocation at a site. -/
theorem invoke_site (s : Site) (hup : s.isUp) (hport : s.port < 65536) (hdocs : s.server.fixture.Documents)
    {function : Function} (hfunction : function = .call ∨ function = .execute) {id : Identifier}
    {args : Json.Value} (hargs : args.Plain)
    (hlength : (s.url .process function (some id)).chars.length ≤ Http.maxTargetLength)
    (hbody : (Text.utf8 args.compact).length ≤ Server.maxBody) :
    ∃ events, (⟨s.gateway, s⟩ : Connection Site).invoke function id args =
      (some ⟨exchangeTime, (s.server.fixture.document? (.call id.text)).map .json, events⟩,
        ⟨s.gateway, s.logged [] [⟨function.name, id.text, args, some "application/json", some "*/*"⟩]⟩) := by
  have hdirected := Site.Directed.invocation s .process function (some id) (Nat.lt_of_le_of_lt hbody (by decide))
  have hother : "PATCH" ≠ "GET" := by decide
  have hinvocation : Server.isInvocation Kind.process.className function.name := by
    rcases hfunction with rfl | rfl <;> decide
  have hslot : (hdirected.ask hbody).slot? = some (.call id.text) := by
    simp [hdirected.ask_slot?, hother, hinvocation]
  have hexchange := hdirected.exchange_eq hup hport hlength hbody
  rw [hdirected.response_of_slot? hbody hdocs (.inr (by simp [hslot])), hslot, hdirected.ask_read?, if_neg hother,
    hdirected.ask_call?_of_ne hbody hother hinvocation hargs rfl, Option.bind_some] at hexchange
  unfold invoke
  simp only [s.route_site hport, s.invocationRequest_site]
  rw [exchange_sent rfl hlength hexchange,
    Gateway.interpretInvocation_document _ _ fun w hw => plain_of_document? hdocs hw]
  exact ⟨_, rfl⟩

end Connection

/-! ## what is asked of a fixture, and how it answers -/

/-- The request keeps to the limits of messages: its URL is not too long, and its arguments are a document of a
size that a server accepts. -/
structure Gateway.Fits (g : Gateway) (r : Request) : Prop where
  url_le : ∀ url, g.route r.kind r.function r.identifier? = .ok url → url.chars.length ≤ Http.maxTargetLength
  plain : ∀ args ∈ r.args?, args.Plain
  body_le : ∀ args ∈ r.args?, (Text.utf8 args.compact).length ≤ Fixture.Server.maxBody

/-- What a fixture of documents answers to a request: the document of the slot of the request, or that there is
none. A list is a document that is read further. -/
def Fixture.reply (f : Fixture) (target : String) : (r : Request) → r.Reply
  | .fetch kind id => found target ((Request.fetch kind id).slot?.bind f.document?)
  | .list kind => (found target (f.document? (.list kind.className))).bind fun document =>
      (identifiersOfDocument document).mapError fun e => .decode target (.shape e)
  | .call id _ => (f.document? (.call id.text)).map .json
  | .execute id => (f.document? (.call id.text)).map .json

theorem Request.slot?_fetch (kind : Kind) (id : Option Identifier) :
    Fixture.Slot.ofRead? kind.className Function.profile.name (id.map Identifier.text) =
      (Request.fetch kind id).slot? := by
  cases kind <;> cases id <;> with_unfolding_all rfl

theorem Request.slot?_list (kind : Kind) :
    Fixture.Slot.ofRead? kind.className Function.list.name none = some (.list kind.className) := by
  cases kind <;> with_unfolding_all rfl

namespace Connection

open Fixture

variable {s : Site}

theorem answer_eq (c : Connection Site) (r : Request) : Remote.answer c r = c.answer r := rfl

theorem fits_site (hport : s.port < 65536) {r : Request}
    (hlength : (s.url r.kind r.function r.identifier?).chars.length ≤ Http.maxTargetLength)
    (hargs : ∀ args ∈ r.args?, args.Plain ∧ (Text.utf8 args.compact).length ≤ Server.maxBody) : s.gateway.Fits r where
  url_le := by
    intro url hurl
    rw [s.route_site hport] at hurl
    obtain rfl := Except.ok.inj hurl
    exact hlength
  plain args h := (hargs args h).1
  body_le args h := (hargs args h).2

/-- **A connection to a server of documents answers like the fixture, and the server logs the request.** -/
theorem answer_site (hup : s.isUp) (hport : s.port < 65536) (hdocs : s.server.fixture.Documents) {r : Request}
    (h : s.gateway.Fits r) :
    ∃ events, Remote.answer (⟨s.gateway, s⟩ : Connection Site) r =
      (some ⟨exchangeTime, s.server.fixture.reply (s.url r.kind r.function r.identifier?).text r, events⟩,
        ⟨s.gateway, s.logged r.read?.toList r.call?.toList⟩) := by
  have hlength := h.url_le _ (s.route_site hport _ _ _)
  cases r with
  | fetch kind id =>
    have hread := read_site s hup hport hdocs kind .profile id hlength Gateway.interpretRead
    have hplain : ∀ w ∈ (Request.fetch kind id).slot?.bind s.server.fixture.document?, w.Plain := fun w hw =>
      have ⟨_, _, hslot⟩ := Option.bind_eq_some_iff.1 hw
      plain_of_document? hdocs hslot
    rw [Request.slot?_fetch, Gateway.interpretRead_document _ hplain] at hread
    refine ⟨[], ?_⟩
    rw [answer_eq, answer, hread]
    rfl
  | list kind =>
    have hread := read_site s hup hport hdocs kind .list none hlength Gateway.interpretList
    have hplain : ∀ w ∈ s.server.fixture.document? (.list kind.className), w.Plain := fun w hw =>
      plain_of_document? hdocs hw
    rw [Option.map_none, Request.slot?_list, Option.bind_some, Gateway.interpretList,
      Gateway.interpretRead_document _ hplain] at hread
    refine ⟨[], ?_⟩
    rw [answer_eq, answer, hread]
    rfl
  | call id args =>
    obtain ⟨events, hinvoke⟩ := invoke_site s hup hport hdocs (.inl (Eq.refl Function.call)) (h.plain args rfl)
      hlength (h.body_le args rfl)
    refine ⟨events, ?_⟩
    rw [answer_eq, answer, hinvoke]
    rfl
  | execute id =>
    obtain ⟨events, hinvoke⟩ := invoke_site s hup hport hdocs (.inr (Eq.refl Function.execute))
      (h.plain .emptyObject rfl) hlength (h.body_le .emptyObject rfl)
    refine ⟨events, ?_⟩
    rw [answer_eq, answer, hinvoke]
    rfl

/-! ## runs -/

/-- The connection after requests. -/
def after (rs : List Request) (c : Connection Site) : Connection Site := rs.foldl (fun c r => (Remote.answer c r).2) c

/-- **Requests change nothing but the log.** -/
theorem after_site (hup : s.isUp) (hport : s.port < 65536) (hdocs : s.server.fixture.Documents) {rs : List Request}
    (h : ∀ r ∈ rs, s.gateway.Fits r) :
    after rs ⟨s.gateway, s⟩ = ⟨s.gateway, s.logged (rs.filterMap Request.read?) (rs.filterMap Request.call?)⟩ := by
  induction rs generalizing s with
  | nil => simp [after, Site.logged]
  | cons r rs ih =>
    obtain ⟨events, hanswer⟩ := answer_site hup hport hdocs (h r (by simp))
    -- the site after the first request has the same gateway, so the rest fits there
    have hrest := ih (s := s.logged r.read?.toList r.call?.toList) hup hport hdocs fun r' hr' => h r' (by simp [hr'])
    have hreads : (r :: rs).filterMap Request.read? = r.read?.toList ++ rs.filterMap Request.read? := by
      cases hr : r.read? <;> simp [hr]
    have hcalls : (r :: rs).filterMap Request.call? = r.call?.toList ++ rs.filterMap Request.call? := by
      cases hr : r.call? <;> simp [hr]
    have hlogged : (s.logged r.read?.toList r.call?.toList).logged (rs.filterMap Request.read?)
        (rs.filterMap Request.call?) =
        s.logged ((r :: rs).filterMap Request.read?) ((r :: rs).filterMap Request.call?) := by
      simp only [Site.logged, hreads, hcalls, List.append_assoc]
    rw [after, List.foldl_cons, hanswer, ← hlogged]
    exact hrest

/-- **A connection to a server of documents is the fixture, and the log of the server is what was asked.** The
endpoint of the server is usable. After requests that keep to the limits the connection is the same but for the
log, which lists them in their order; and the next such request is answered with the document of its own slot, or
with nothing if there is none. Documents for a container, for a process and for the calls of a process are
kept apart, even under one identifier. -/
theorem source_is_fixture {s : Site} (hup : s.isUp) (hport : s.port < 65536) (hdocs : s.server.fixture.Documents)
    {e : Config.Endpoint} (hbase : e.baseUrl = s.baseUrl) (hroot : e.apiPrefix = "/api") (hheaders : e.headers = []) :
    ∃ g, Gateway.ofEndpoint e = .ok g ∧
      (∀ rs, (∀ r ∈ rs, g.Fits r) →
        after rs ⟨g, s⟩ = ⟨g, s.logged (rs.filterMap Request.read?) (rs.filterMap Request.call?)⟩ ∧
        ∀ r, g.Fits r → ∃ url events, g.route r.kind r.function r.identifier? = .ok url ∧
          (Remote.answer (after rs ⟨g, s⟩) r).1 =
            some ⟨exchangeTime, s.server.fixture.reply url.text r, events⟩) ∧
      ∀ (f : Fixture) (id : Identifier) (a b c args : Json.Value) (target : String),
        let kept :=
          ((f.set (.container id.text) (.json a)).set (.process id.text) (.json b)).set (.call id.text) (.json c)
        kept.reply target (.fetch .container (some id)) = .ok a ∧
          kept.reply target (.fetch .process (some id)) = .ok b ∧
          kept.reply target (.call id args) = some (.json c) ∧ kept.reply target (.execute id) = some (.json c) := by
  refine ⟨s.gateway, s.ofEndpoint_site hport hbase hroot hheaders, fun rs hrs => ?_, ?_⟩
  · have hafter := after_site hup hport hdocs hrs
    refine ⟨hafter, fun r hr => ?_⟩
    obtain ⟨events, hanswer⟩ := answer_site
      (s := s.logged (rs.filterMap Request.read?) (rs.filterMap Request.call?)) hup hport hdocs hr
    refine ⟨_, events, s.route_site hport _ _ _, ?_⟩
    rw [hafter]
    exact congrArg Prod.fst hanswer
  · intro f id a b c args target kept
    simp [kept, reply, Request.slot?, document?_set, found]

/-- An identifier of signs that mean something in queries. -/
def awkward : Identifier := ⟨"a&b=c+d%20 #é"⟩

/-- A server that keeps a container, a process and the calls of a process, all under that identifier. -/
def awkwardSite : Site :=
  ⟨8080, true, Server.start (((Fixture.empty.set (.container awkward.text) (.json .null)).set
    (.process awkward.text) (.json .emptyObject)).set (.call awkward.text) (.json (.string "done")))⟩

/-- Four requests under the awkward identifier. -/
def awkwardRequests : List Request :=
  [.fetch .container (some awkward), .list .process, .call awkward (.string "é"), .execute awkward]

theorem documents_awkwardSite : awkwardSite.server.fixture.Documents :=
  ((documents_empty.set _ Json.Value.plain_null).set _ Json.Value.plain_emptyObject).set _
    (Json.Value.plain_string "done")

theorem fits_awkwardRequests : ∀ r ∈ awkwardRequests, awkwardSite.gateway.Fits r := by
  have hport : awkwardSite.port < 65536 := by decide
  simp only [awkwardRequests, List.forall_mem_cons, List.not_mem_nil, false_implies, implies_true, and_true]
  refine ⟨fits_site hport ?_ ?_, fits_site hport ?_ ?_, fits_site hport ?_ ?_, fits_site hport ?_ ?_⟩
  · decide +kernel
  · exact nofun
  · decide +kernel
  · exact nofun
  · decide +kernel
  · rintro args ⟨⟩
    exact ⟨Json.Value.plain_string "é", by decide +kernel⟩
  · decide +kernel
  · rintro args ⟨⟩
    exact ⟨Json.Value.plain_emptyObject, by decide +kernel⟩

theorem source_is_fixture_awkward :
    awkwardSite.isUp ∧ awkwardSite.port < 65536 ∧ awkwardSite.server.fixture.Documents ∧
      ∃ g, Gateway.ofEndpoint { baseUrl := awkwardSite.baseUrl, apiPrefix := "/api" } = .ok g ∧
        (∀ r ∈ awkwardRequests, g.Fits r) ∧
        after awkwardRequests ⟨g, awkwardSite⟩ = ⟨g, awkwardSite.logged
          ["container/profile_full?a&b=c+d%20 #é", "container_process/list"]
          [⟨"call", "a&b=c+d%20 #é", .string "é", some "application/json", some "*/*"⟩,
            ⟨"execute", "a&b=c+d%20 #é", .emptyObject, some "application/json", some "*/*"⟩]⟩ ∧
        ∃ events, (Remote.answer (after awkwardRequests ⟨g, awkwardSite⟩) (.call awkward (.string "é"))).1 =
          some ⟨exchangeTime, some (.json (.string "done")), events⟩ := by
  obtain ⟨g, hg, hruns, -⟩ := source_is_fixture (s := awkwardSite)
    (e := { baseUrl := awkwardSite.baseUrl, apiPrefix := "/api" }) rfl (by decide) documents_awkwardSite rfl rfl rfl
  obtain rfl : awkwardSite.gateway = g :=
    Except.ok.inj ((awkwardSite.ofEndpoint_site (by decide) rfl rfl rfl).symm.trans hg)
  obtain ⟨hafter, hanswer⟩ := hruns awkwardRequests fits_awkwardRequests
  obtain ⟨_, events, -, hcall⟩ := hanswer (.call awkward (.string "é"))
    (fits_awkwardRequests _ (by simp [awkwardRequests]))
  exact ⟨rfl, by decide, documents_awkwardSite, _, hg, fits_awkwardRequests, hafter, events, hcall⟩

/-! ## beyond the limits -/

/-- A request whose URL is too long is not sent. -/
theorem exchange_site_of_long (s : Site) {kind : Kind} {function : Function} {id : Option Identifier}
    {r : Http.Request} (hurl : r.url = s.url kind function id)
    (hlong : Http.maxTargetLength < (s.url kind function id).chars.length)
    (interpret : Http.Outcome → α × List Log.Event) :
    (⟨s.gateway, s⟩ : Connection Site).exchange r interpret =
      (some ⟨exchangeTime, (interpret .unreachable).1, (interpret .unreachable).2⟩, ⟨s.gateway, s⟩) := by
  have hsend : r.canSend = false := by
    rw [s.canSend_site hurl]
    exact decide_eq_false (by omega)
  unfold exchange
  simp only [hsend, Bool.false_eq_true, if_false]

/-- A profile whose URL is too long fails like an unreachable server, and is not logged. -/
theorem answer_fetch_of_long (hport : s.port < 65536) {kind : Kind} {id : Option Identifier}
    (hlong : Http.maxTargetLength < (s.url kind .profile id).chars.length) :
    Remote.answer (⟨s.gateway, s⟩ : Connection Site) (.fetch kind id) =
      (some ⟨exchangeTime, .error (.network (s.url kind .profile id).text), []⟩, ⟨s.gateway, s⟩) := by
  have hurl : (s.gateway.readRequest (s.url kind .profile id)).url = s.url kind .profile id := by
    rw [Site.readRequest_site]
  rw [answer_eq, answer, read]
  simp only [s.route_site hport]
  rw [exchange_site_of_long s hurl hlong]
  rfl

/-- An invocation with arguments that are too large has no result, and is not logged. -/
theorem answer_call_of_large (hup : s.isUp) (hport : s.port < 65536) {id : Identifier} {args : Json.Value}
    (hlength : (s.url .process .call (some id)).chars.length ≤ Http.maxTargetLength)
    (hlarge : Server.maxBody < (Text.utf8 args.compact).length)
    (hbody : (Text.utf8 args.compact).length < 10000000) :
    ∃ events, Remote.answer (⟨s.gateway, s⟩ : Connection Site) (.call id args) =
      (some ⟨exchangeTime, none, events⟩, ⟨s.gateway, s⟩) := by
  have hdirected := Site.Directed.invocation s .process .call (some id) hbody
  have hother : "PATCH" ≠ "GET" := by decide
  rw [answer_eq, answer, invoke]
  simp only [s.route_site hport, s.invocationRequest_site]
  rw [exchange_sent rfl hlength (hdirected.exchange_of_large hup hport hlength hother hlarge)]
  exact ⟨_, rfl⟩

/-- A text of one letter, written so many times. -/
def letters (n : Nat) : String := String.ofList (List.replicate n 'a')

theorem length_letters (n : Nat) : (letters n).toList.length = n := by
  rw [letters, String.toList_ofList, List.length_replicate]

theorem length_compact_letters (n : Nat) : (Text.utf8 (Json.Value.string (letters n)).compact).length = n + 2 := by
  have hescape : (List.replicate n 'a').flatMap Json.escape = List.replicate n 'a' := by
    induction n with
    | zero => rfl
    | succ n ih => rw [List.replicate_succ, List.flatMap_cons, ih]; rfl
  have hchars : (Json.Value.string (letters n)).compact.toList = '"' :: (List.replicate n 'a' ++ ['"']) := by
    rw [Json.Value.compact, String.toList_ofList, Json.Value.chars, Json.quote, letters, String.toList_ofList, hescape]
  rw [Text.utf8, hchars, Text.Utf8.encode_of_ascii, List.length_map]
  · simp
  · intro c hc
    simp only [List.mem_cons, List.mem_append, List.mem_replicate, List.not_mem_nil, or_false] at hc
    rcases hc with rfl | ⟨-, rfl⟩ | rfl <;> decide

/-- A server that keeps a profile under a long identifier, and the calls of a process. -/
def longSite : Site :=
  ⟨8080, true,
    Server.start ((Fixture.empty.set (.container (letters 65536)) (.json .null)).set (.call "a") (.json .null))⟩

/-- **Not every request has the answer that is kept for it.** The profile under the long identifier is not read,
since its URL is too long to be sent, and a call with a text that is too large is refused; the server logs neither. -/
theorem longSite_silent :
    longSite.isUp ∧ longSite.port < 65536 ∧ longSite.server.fixture.Documents ∧
      Gateway.ofEndpoint { baseUrl := longSite.baseUrl, apiPrefix := "/api" } = .ok longSite.gateway ∧
      (longSite.server.fixture.document? (.container (letters 65536)) = some .null ∧
        ∃ target, Remote.answer (⟨longSite.gateway, longSite⟩ : Connection Site)
            (.fetch .container (some ⟨letters 65536⟩)) =
          (some ⟨exchangeTime, .error (.network target), []⟩, ⟨longSite.gateway, longSite⟩)) ∧
      longSite.server.fixture.document? (.call "a") = some .null ∧ (Json.Value.string (letters 2097152)).Plain ∧
        ∃ events, Remote.answer (⟨longSite.gateway, longSite⟩ : Connection Site)
            (.call ⟨"a"⟩ (.string (letters 2097152))) =
          (some ⟨exchangeTime, none, events⟩, ⟨longSite.gateway, longSite⟩) := by
  have hport : longSite.port < 65536 := by decide
  have hkept (slot : Slot) : longSite.server.fixture.document? slot =
      if .call "a" = slot then some .null
      else if .container (letters 65536) = slot then some .null else Fixture.empty.document? slot := by
    rw [longSite, Server.start, document?_set, document?_set]
  have hlong : Http.maxTargetLength < (longSite.url .container .profile (some ⟨letters 65536⟩)).chars.length := by
    have htext := longSite.length_le_url .container .profile ⟨letters 65536⟩
    rw [length_letters] at htext
    exact Nat.lt_of_lt_of_le (by decide) htext
  have hlength := length_compact_letters 2097152
  refine ⟨rfl, hport, (documents_empty.set _ Json.Value.plain_null).set _ Json.Value.plain_null,
    longSite.ofEndpoint_site hport rfl rfl rfl, ⟨?_, _, answer_fetch_of_long hport hlong⟩, ?_,
    Json.Value.plain_string _, ?_⟩
  · rw [hkept, if_neg (by simp), if_pos rfl]
  · rw [hkept, if_pos rfl]
  · refine answer_call_of_large rfl hport (by decide +kernel) ?_ ?_
    · rw [hlength]
      decide
    · rw [hlength]
      decide

end Connection

end ProcessGraph
