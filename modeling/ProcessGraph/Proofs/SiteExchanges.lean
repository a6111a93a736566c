import ProcessGraph.Proofs.Documents
import ProcessGraph.Proofs.FixtureStore
import ProcessGraph.Proofs.SiteRequests

/-!
# Exchanges with servers of documents

* `Fixture.Documents`, `Fixture.document?`: fixtures of documents, and the document for a slot.
* `Gateway.interpretRead_document`, `Gateway.interpretInvocation_document`: what a document becomes when it is read.
* `Site.Directed.ask`: a request to a site asks its server for one slot.
* `Site.Directed.exchange_eq`: it is answered with the document of that slot, and logged.
* `Site.Directed.exchange_of_large`: a body that is too large is refused.
-/

namespace ProcessGraph

namespace Fixture

/-! ## fixtures of documents -/

/-- Every answer is a document. -/
def Documents (f : Fixture) : Prop := ∀ slot r, f.get? slot = some r → ∃ v : Json.Value, r = .json v ∧ v.Plain

/-- The document kept for a slot. -/
def document? (f : Fixture) (slot : Slot) : Option Json.Value :=
  match f.get? slot with
  | some (.json v) => some v
  | _ => none

/-- A document that was looked for, or the error that there is none. -/
def found (target : String) : Option Json.Value → Except ClientError Json.Value
  | some v => .ok v
  | none => .error (.status target 404)

/-- The response for a document that may not be there. -/
def documentResponse : Option Json.Value → Http.Response
  | some v => Response.typed 200 (Text.utf8 Http.jsonType) (Text.utf8 v.compact)
  | none => Response.blank 404

theorem sendable_respond {f : Fixture} (h : f.Documents) (slot : Slot) :
    Server.sendable (Server.respond (f.get? slot)) = documentResponse (f.document? slot) := by
  unfold document?
  cases hget : f.get? slot with
  | none => rfl
  | some r =>
    obtain ⟨v, rfl, -⟩ := h slot r hget
    rfl

theorem plain_of_document? {f : Fixture} (h : f.Documents) {slot : Slot} {v : Json.Value}
    (hv : f.document? slot = some v) : v.Plain := by
  unfold document? at hv
  cases hget : f.get? slot with
  | none =>
    rw [hget] at hv
    cases hv
  | some r =>
    obtain ⟨w, rfl, hw⟩ := h slot r hget
    rw [hget] at hv
    obtain rfl := Option.some.inj hv
    exact hw

theorem documents_empty : empty.Documents := by
  intro slot r h
  rw [get?_empty] at h
  cases h

theorem Documents.set {f : Fixture} (h : f.Documents) (slot : Slot) {v : Json.Value} (hv : v.Plain) :
    (f.set slot (.json v)).Documents := by
  intro slot' r hr
  rw [get?_set] at hr
  split at hr
  · obtain rfl := Option.some.inj hr
    exact ⟨v, rfl, hv⟩
  · exact h slot' r hr

theorem document?_set (f : Fixture) (slot slot' : Slot) (v : Json.Value) :
    (f.set slot (.json v)).document? slot' = if slot = slot' then some v else f.document? slot' := by
  unfold document?
  rw [get?_set]
  by_cases h : slot = slot' <;> simp [h]

end Fixture

namespace Gateway

/-! ## what a document becomes -/

/-- A read of a document, or of none. -/
theorem interpretRead_document (target : String) {v : Option Json.Value} (hv : ∀ w ∈ v, w.Plain) :
    interpretRead target (.response (Fixture.documentResponse v)) = Fixture.found target v := by
  cases v with
  | none => rfl
  | some w =>
    have hbytes := Json.Value.ofBytes?_compact (hv w rfl)
    simp only [interpretRead, Fixture.documentResponse, Fixture.Response.typed, Http.ok, hbytes]
    rfl

/-- The result of an invocation is a document, or none. -/
theorem interpretInvocation_document (id : Identifier) (function : Function) {v : Option Json.Value}
    (hv : ∀ w ∈ v, w.Plain) :
    (interpretInvocation id function (.response (Fixture.documentResponse v))).1 = v.map .json := by
  cases v with
  | none => rfl
  | some w =>
    have hbytes := Json.Value.ofBytes?_compact (hv w rfl)
    have htype : (Fixture.documentResponse (some w)).contentType?.any Http.isJsonType = true := by
      with_unfolding_all rfl
    have hstatus : (Fixture.documentResponse (some w)).status = Http.ok := rfl
    have hbody : (Fixture.documentResponse (some w)).body = some (Text.utf8 w.compact) := rfl
    simp only [interpretInvocation, hstatus, hbody, htype, hbytes, ne_eq, not_true_eq_false, if_false, if_true]
    rfl

end Gateway

/-! ## exchanges with a site -/

/-- The site when its server has logged more. -/
def Fixture.Site.logged (s : Site) (reads : List String) (calls : List RecordedCall) : Site :=
  { s with server := { s.server with reads := s.server.reads ++ reads, calls := s.server.calls ++ calls } }

namespace Fixture.Site.Directed

variable {s : Site} {kind : Kind} {function : Function} {id : Option Identifier} {id' : Identifier} {r : Http.Request}

/-- What arrives. -/
def arrival (s : Site) (kind : Kind) (function : Function) (id : Option Identifier) (r : Http.Request) : Arrival :=
  ⟨r.method, ⟨routePath kind function, (s.url kind function id).query.getD []⟩, r.declared, some r.body⟩

theorem identifierOf_query (s : Site) (kind : Kind) (function : Function) (id : Option Identifier) :
    Server.identifierOf ((s.url kind function id).query.getD []) = .ok (id.map Identifier.text) := by
  cases id with
  | none => rfl
  | some id =>
    have hquery : (s.url kind function (some id)).query.getD [] =
        Text.FormEncoded.pair Gateway.identifierName.toList id.text.toList := rfl
    have hnamed : [(Gateway.identifierName.toList, id.text.toList)].filter (fun p => p.1 = "identifier".toList) =
        [(Gateway.identifierName.toList, id.text.toList)] := rfl
    rw [hquery, Server.identifierOf, Text.FormEncoded.pairs_pair]
    simp only [hnamed, String.ofList_toList]
    rfl

theorem addressOf_query (s : Site) (kind : Kind) (function : Function) (id : Option Identifier) :
    Server.addressOf (kind.className.toList, function.name.toList) ((s.url kind function id).query.getD []) =
      .ok (kind.className, function.name, id.map Identifier.text) := by
  have hkind : Server.segmentText? kind.className.toList = some kind.className := by
    cases kind <;> with_unfolding_all rfl
  have hfunction : Server.segmentText? function.name.toList = some function.name := by
    cases function <;> with_unfolding_all rfl
  simp only [Server.addressOf, hkind, hfunction, identifierOf_query]
  rfl

theorem segments?_routePath (kind : Kind) (function : Function) :
    Server.segments? (routePath kind function) = some (kind.className.toList, function.name.toList) := by
  cases kind <;> cases function <;> decide +kernel

/-- The read or the invocation that arrives. -/
def ask (h : s.Directed kind function id r) (hbody : r.body.length ≤ Server.maxBody) : Ask where
  arrival := arrival s kind function id r
  segments := (kind.className.toList, function.name.toList)
  className := kind.className
  function := function.name
  identifier := id.map Identifier.text
  routed := segments?_routePath kind function
  addressed := addressOf_query s kind function id
  served := by
    rcases h.method with ⟨hm, -⟩ | ⟨hm, -⟩
    · exact .inl hm
    · exact .inr ⟨hm, r.body, rfl, hbody⟩

/-- The slot that a read or an invocation asks for. -/
theorem ask_slot? (h : s.Directed kind function id r) (hbody : r.body.length ≤ Server.maxBody) :
    (h.ask hbody).slot? =
      if r.method = "GET" then Slot.ofRead? kind.className function.name (id.map Identifier.text)
      else if Server.isInvocation kind.className function.name then (id.map Identifier.text).map .call else none := by
  by_cases hget : r.method = "GET" <;> simp [Ask.slot?, Ask.isRead, ask, arrival, hget]

theorem ask_read? (h : s.Directed kind function id r) (hbody : r.body.length ≤ Server.maxBody) :
    (h.ask hbody).read? =
      if r.method = "GET" then some (Server.readRecord kind.className function.name (id.map Identifier.text))
      else none := by
  by_cases hget : r.method = "GET" <;> simp [Ask.read?, Ask.isRead, ask, arrival, hget]

theorem ask_call?_of_get (h : s.Directed kind function id r) (hbody : r.body.length ≤ Server.maxBody)
    (hget : r.method = "GET") : (h.ask hbody).call? = none := by
  simp [Ask.call?, Ask.isRead, ask, arrival, hget]

theorem headerText?_declared (h : s.Directed kind function id r) (hother : r.method ≠ "GET") :
    Http.headerText? Http.contentTypeName r.declared = some "application/json" ∧
      Http.headerText? "accept" r.declared = some "*/*" := by
  have hheaders : r.headers = s.callHeaders := (h.method.resolve_left fun hget => hother hget.1).2
  obtain ⟨rest, hrest⟩ : ∃ rest, r.declared = s.callHeaders ++ rest := by
    unfold Http.Request.declared
    split
    · exact ⟨[], by rw [hheaders, List.append_nil]⟩
    · exact ⟨_, by rw [hheaders]⟩
  rw [hrest]
  exact ⟨by with_unfolding_all rfl, by with_unfolding_all rfl⟩

theorem ask_call?_of_ne (h : s.Directed .process function (some id') r) (hbody : r.body.length ≤ Server.maxBody)
    (hother : r.method ≠ "GET") (hinvocation : Server.isInvocation Kind.process.className function.name)
    {args : Json.Value} (hargs : args.Plain) (hsent : r.body = Text.utf8 args.compact) :
    (h.ask hbody).call? =
      some ⟨function.name, id'.text, args, some "application/json", some "*/*"⟩ := by
  obtain ⟨htype, haccept⟩ := h.headerText?_declared hother
  have hread : Json.Value.ofBytes? r.body = some args := hsent ▸ Json.Value.ofBytes?_compact hargs
  simp [Ask.call?, Ask.isRead, ask, arrival, hother, hinvocation, htype, haccept, hread]

theorem response_of_slot? (h : s.Directed kind function id r) (hbody : r.body.length ≤ Server.maxBody) {f : Fixture}
    (hdocs : f.Documents) (hslot : r.method = "GET" ∨ (h.ask hbody).slot? ≠ none) :
    (h.ask hbody).response f.get? = documentResponse ((h.ask hbody).slot?.bind f.document?) := by
  unfold Ask.response
  cases hask : (h.ask hbody).slot? with
  | some slot => exact sendable_respond hdocs slot
  | none =>
    have hget : r.method = "GET" := hslot.resolve_right fun hne => hne hask
    have hread : (h.ask hbody).isRead := decide_eq_true hget
    simp [hread, documentResponse]

/-- **A server of documents answers with the document of the slot, and logs the request.** -/
theorem exchange_eq (h : s.Directed kind function id r) (hup : s.isUp) (hport : s.port < 65536)
    (hlength : (s.url kind function id).chars.length ≤ Http.maxTargetLength)
    (hbody : r.body.length ≤ Server.maxBody) :
    s.exchange r = (some (.response ((h.ask hbody).response s.server.fixture.get?)),
      s.logged (h.ask hbody).read?.toList (h.ask hbody).call?.toList) := by
  have hcovers : s.covers r.url := h.url_eq ▸ s.covers_site kind function id
  have hserve : s.server.serveArrival (Arrival.ofWire r.wire) =
      s.server.serve (h.ask hbody).arrival := by
    rw [h.ofWire hport hlength]
    rfl
  unfold exchange
  simp only [hup, hcovers, Bool.and_self, if_true, hserve, Server.serve_ask, logged]

/-- A body that is too large is refused, and the invocation is not logged. -/
theorem exchange_of_large (h : s.Directed kind function id r) (hup : s.isUp) (hport : s.port < 65536)
    (hlength : (s.url kind function id).chars.length ≤ Http.maxTargetLength) (hmethod : r.method ≠ "GET")
    (hlarge : Server.maxBody < r.body.length) :
    s.exchange r = (some (.response (Server.badBody 413 "length limit exceeded")), s) := by
  have hpatch : r.method = "PATCH" := (h.method.resolve_left fun hget => hmethod hget.1).1
  have hcovers : s.covers r.url := h.url_eq ▸ s.covers_site kind function id
  have haddress := addressOf_query s kind function id
  have hroute : s.server.serveRoute (kind.className.toList, function.name.toList) (arrival s kind function id r) =
      (Server.badBody 413 "length limit exceeded", s.server) := by
    simp [Server.serveRoute, arrival, hpatch, haddress, hlarge]
  have hserve : s.server.serveArrival (Arrival.ofWire r.wire) =
      (Server.badBody 413 "length limit exceeded", s.server) := by
    have hsegments : Server.segments? (arrival s kind function id r).target.path = _ :=
      segments?_routePath kind function
    have hhead : (arrival s kind function id r).method ≠ "HEAD" := by
      change r.method ≠ "HEAD"
      rw [hpatch]
      decide
    rw [h.ofWire hport hlength]
    change s.server.serve (arrival s kind function id r) = _
    simp only [Server.serve, hsegments, hroute, if_neg hhead]
    rfl
  unfold exchange
  simp only [hup, hcovers, Bool.and_self, if_true, hserve]
  rw [← hup]

end Fixture.Site.Directed

end ProcessGraph
