import ProcessGraph.Fixture.Server
import ProcessGraph.Proofs.Validation
import ProcessGraph.Proofs.Wire

/-!
# Requests to fixture servers

* `Site.url`, `Site.gateway`: the URLs of a server, and the gateway to it.
* `Site.ofEndpoint_site`, `Site.route_site`: the endpoint of a server has that gateway, and its routes are those URLs.
* `Site.target`, `Site.url_chars`: what the first line of a request names, and the URL around it.
* `Site.canSend_site`: a request to one of them can be sent, unless the URL is too long.
* `Site.readRequest_site`, `Site.invocationRequest_site`: what is sent there.
* `Site.Directed.ofWire`: what arrives.
-/

namespace ProcessGraph.Fixture.Site

/-! ## the address of a site -/

/-- The host of a site, as it is written. -/
def hostChars : List Char := "127.0.0.1".toList

theorem hostChars_ne : hostChars ≠ [] := by
  decide

/-- The port of a site, as it stands in URLs. -/
def port? (s : Site) : Option Nat := if s.port = 80 then none else some s.port

/-- The URL of a function of an entity of the site. -/
def url (s : Site) (kind : Kind) (function : Function) (id : Option Identifier) : Url :=
  ⟨"http".toList, [], [], some (.ipv4 localHost), s.port?,
    .segments ["api".toList, kind.className.toList, function.name.toList],
    id.map fun id => Text.FormEncoded.pair Gateway.identifierName.toList id.text.toList, none⟩

theorem host_parse : Url.Host.parse hostChars = .ok (.ipv4 localHost) := by
  with_unfolding_all rfl

theorem chars_localHost : (Url.Host.ipv4 localHost).chars = hostChars := by
  with_unfolding_all rfl

theorem isDigit_of_mem_toDigits {n : Nat} {c : Char} (h : c ∈ Nat.toDigits 10 n) : c.isDigit :=
  Nat.isDigit_of_mem_toDigits (by decide) (by decide) h

theorem parsePort_toDigits {n : Nat} (h : n < 65536) :
    Url.parsePort "http".toList (Nat.toDigits 10 n) = .ok (if n = 80 then none else some n) := by
  have hne : (Nat.toDigits 10 n).isEmpty = false := by simp [Nat.toDigits_ne_nil]
  have hdigits : (Nat.toDigits 10 n).all Url.Ipv4.isDigit := by
    rw [List.all_eq_true]
    intro c hc
    exact isDigit_of_mem_toDigits hc
  have hvalue := Http.foldl_toDigits n
  have hport : ¬ 65535 < n := by omega
  have hscheme : Url.defaultPort "http".toList = some 80 := by decide
  unfold Url.parsePort
  simp only [hne, hdigits, hvalue, hport, hscheme, if_false, if_true, Bool.false_eq_true, Option.some.injEq, eq_comm]

/-- The credentials are those before an at sign. -/
theorem splitCredentials_of_forall {cs : List Char} (h : ∀ c ∈ cs, (c ≠ '@' : Bool)) :
    Url.splitCredentials cs = (none, cs) := by
  have hback : cs.reverse.takeWhile (· ≠ '@') = cs.reverse :=
    List.takeWhile_eq_self_iff.2 fun c hc => h c (List.mem_reverse.1 hc)
  simp only [Url.splitCredentials, hback]
  simp

/-- The port of an authority, with its colon. -/
def portText (n : Nat) : List Char := ':' :: Nat.toDigits 10 n

theorem ne_of_isDigit {c d : Char} (hc : c.isDigit) (hd : d.isDigit = false) : c ≠ d := by
  rintro rfl
  rw [hc] at hd
  cases hd

theorem forall_mem_authority {P : Char → Prop} (hhost : ∀ c ∈ hostChars, P c) (hcolon : P ':')
    (hdigit : ∀ c, c.isDigit → P c) (n : Nat) : ∀ c ∈ hostChars ++ portText n, P c := by
  intro c hc
  rcases List.mem_append.1 hc with hc | hc
  · exact hhost c hc
  rcases List.mem_cons.1 hc with rfl | hc
  · exact hcolon
  · exact hdigit c (isDigit_of_mem_toDigits hc)

/-- A host and a port are read as such. -/
theorem authority?_port {n : Nat} (h : n < 65536) :
    Url.authority? "http".toList (hostChars ++ portText n) =
      .ok ⟨[], [], .ipv4 localHost, if n = 80 then none else some n⟩ := by
  have hsplit : Url.splitCredentials (hostChars ++ portText n) = (none, hostChars ++ portText n) :=
    splitCredentials_of_forall (forall_mem_authority (List.all_eq_true.1 (by decide)) (by decide)
      (fun c hc => by simpa using ne_of_isDigit hc (by decide)) n)
  have hspan : Url.spanHost false (hostChars ++ portText n) = (hostChars, portText n) := rfl
  have hdigits : ∀ c ∈ Nat.toDigits 10 n, (c ≠ '\\' : Bool) := fun c hc => by
    simpa using ne_of_isDigit (isDigit_of_mem_toDigits hc) (by decide)
  rw [Url.authority?, Url.parseAuthority_of_special (by decide) _ hsplit hspan, if_neg (by decide), host_parse]
  have hdrop : (portText n).drop 1 = Nat.toDigits 10 n := rfl
  rw [hdrop, List.takeWhile_eq_self_iff.2 hdigits, parsePort_toDigits h]
  rfl

theorem authority?_host : Url.authority? "http".toList hostChars = .ok ⟨[], [], .ipv4 localHost, none⟩ := by
  with_unfolding_all rfl

/-- The authority of the URLs of a site. -/
def authorityChars (s : Site) : List Char := hostChars ++ (s.url .system .list none).portChars

/-- The port that the scheme implies is left out. -/
theorem authorityChars_eq (s : Site) :
    s.authorityChars = hostChars ∧ s.port? = none ∨
      s.authorityChars = hostChars ++ portText s.port ∧ s.port ≠ 80 ∧ s.port? = some s.port := by
  by_cases hport : s.port = 80
  · exact .inl (by simp [authorityChars, Url.portChars, url, port?, hport])
  · exact .inr (by simp [authorityChars, Url.portChars, url, port?, hport, portText])

theorem authority?_site (s : Site) (h : s.port < 65536) :
    Url.authority? "http".toList s.authorityChars = .ok ⟨[], [], .ipv4 localHost, s.port?⟩ := by
  rcases s.authorityChars_eq with ⟨hchars, hport⟩ | ⟨hchars, hother, hport⟩
  · rw [hchars, hport, authority?_host]
  · rw [hchars, hport, authority?_port h, if_neg hother]

theorem forall_mem_authorityChars {P : Char → Prop} (hhost : ∀ c ∈ hostChars, P c) (hcolon : P ':')
    (hdigit : ∀ c, c.isDigit → P c) (s : Site) : ∀ c ∈ s.authorityChars, P c := by
  rcases s.authorityChars_eq with ⟨hchars, -⟩ | ⟨hchars, -⟩
  · rwa [hchars]
  · rw [hchars]
    exact forall_mem_authority hhost hcolon hdigit s.port

theorem isInner_of_isDigit {c : Char} (h : c.isDigit) : Url.isInner c := by
  have hbounds := Text.FormEncoded.bounds_of_isAlphanum (c := c) (by simp [Char.isAlphanum, h])
  have hlarge : 32 < c.toNat := by omega
  have hne : ∀ d : Char, d.isDigit = false → c ≠ d := fun d hd => ne_of_isDigit h hd
  simp [Url.isInner, Url.isSlash, hlarge, hne '/' (by decide), hne '\\' (by decide), hne '?' (by decide),
    hne '#' (by decide)]

theorem isInner_authorityChars (s : Site) : ∀ c ∈ s.authorityChars, Url.isInner c :=
  forall_mem_authorityChars (P := fun c => Url.isInner c) (List.all_eq_true.1 (by decide)) (by decide)
    (fun _ hc => isInner_of_isDigit hc) s

theorem authorityChars_ne (s : Site) : s.authorityChars ≠ [] := by
  simp [authorityChars, hostChars_ne]

/-! ## the gateway to a site -/

/-- The path of a function of a class. -/
def routePath (kind : Kind) (function : Function) : List Char :=
  "/api/".toList ++ (kind.className.toList ++ '/' :: function.name.toList)

theorem opensTail_routePath (kind : Kind) (function : Function) : Url.OpensTail (routePath kind function) := by
  intro c hc
  obtain rfl := Option.some.inj hc
  exact .inl rfl

theorem isPageScheme_http : Url.isPageScheme "http".toList := .inl rfl

/-- The text of an address at the site is read as its URL. -/
theorem parse_site (s : Site) (h : s.port < 65536) {tail : List Char} (htail : Url.OpensTail tail) :
    Url.parseChars ("http".toList ++ ':' :: '/' :: '/' :: (s.authorityChars ++ tail)) =
      .ok (Url.located "http".toList tail ⟨[], [], .ipv4 localHost, s.port?⟩) := by
  rw [Url.parseChars_located isPageScheme_http s.authorityChars_ne s.isInner_authorityChars htail,
    authority?_site s h]
  rfl

theorem located_routePath (s : Site) (kind : Kind) (function : Function) :
    Url.located "http".toList (routePath kind function) ⟨[], [], .ipv4 localHost, s.port?⟩ =
      s.url kind function none := by
  cases kind <;> cases function <;> with_unfolding_all rfl

/-- The URL of the server itself. -/
def rootUrl (s : Site) : Url := ⟨"http".toList, [], [], some (.ipv4 localHost), s.port?, .segments [[]], none, none⟩

theorem parse_baseUrl (s : Site) (h : s.port < 65536) : Url.parse s.baseUrl = .ok s.rootUrl := by
  have htext : s.baseUrl.toList = "http".toList ++ ':' :: '/' :: '/' :: ((hostChars ++ portText s.port) ++ []) := by
    have hhost : "127.0.0.1:".toList = hostChars ++ [':'] := by decide
    have hscheme : "http://".toList = "http".toList ++ [':', '/', '/'] := by decide
    have hport : (toString s.port).toList = Nat.toDigits 10 s.port := by simp
    rw [baseUrl, authority, String.toList_append, String.toList_append, hhost, hscheme, hport]
    simp [portText]
  have hinner : ∀ c ∈ hostChars ++ portText s.port, Url.isInner c :=
    forall_mem_authority (P := fun c => Url.isInner c) (List.all_eq_true.1 (by decide)) (by decide)
      (fun _ hc => isInner_of_isDigit hc) _
  rw [Url.parse, htext,
    Url.parseChars_located isPageScheme_http (by simp [hostChars_ne]) hinner (by simp [Url.OpensTail]),
    authority?_port h]
  rfl

theorem rootUrl_chars (s : Site) :
    s.rootUrl.chars = "http".toList ++ ':' :: '/' :: '/' :: (s.authorityChars ++ ['/']) := by
  rw [authorityChars, ← chars_localHost]
  simp [Url.chars, Url.charsWithoutFragment, Url.authorityChars, rootUrl, Url.userinfoChars, Url.queryChars,
    Url.fragmentChars, Url.Path.chars, Url.portChars, url]

theorem rootText_site (s : Site) :
    (Gateway.rootText s.rootUrl "/api").toList =
      "http".toList ++ ':' :: '/' :: '/' :: (s.authorityChars ++ "/api".toList) := by
  have hroot : (Gateway.dropSlashes s.rootUrl.text).toList =
      "http".toList ++ ':' :: '/' :: '/' :: (s.authorityChars ++ []) := by
    rw [Gateway.dropSlashes_toList, Url.text, String.toList_ofList, rootUrl_chars,
      Gateway.dropTrailing_located s.authorityChars_ne s.isInner_authorityChars]
    rfl
  have hroute : (Gateway.dropSlashes "/api").toList = "/api".toList := by decide
  rw [Gateway.rootText, String.toList_append, hroot, hroute]
  simp

/-- The gateway to a site. -/
def gateway (s : Site) : Gateway := ⟨Gateway.rootText s.rootUrl "/api", []⟩

theorem ofEndpoint_site (s : Site) (h : s.port < 65536) {e : Config.Endpoint} (hbase : e.baseUrl = s.baseUrl)
    (hroute : e.apiPrefix = "/api") (hheaders : e.headers = []) : Gateway.ofEndpoint e = .ok s.gateway := by
  have hroot : Url.parse (Gateway.rootText s.rootUrl e.apiPrefix) =
      .ok (Url.located "http".toList "/api".toList ⟨[], [], .ipv4 localHost, s.port?⟩) := by
    rw [Url.parse, hroute, rootText_site, parse_site s h (by simp [Url.OpensTail])]
  rw [Gateway.ofEndpoint_eq (hbase ▸ parse_baseUrl s h) hroot, hheaders, hroute]
  rfl

theorem routeText_site (s : Site) (kind : Kind) (function : Function) :
    (s.gateway.routeText kind function).toList =
      "http".toList ++ ':' :: '/' :: '/' :: (s.authorityChars ++ routePath kind function) := by
  have hslash : "/api".toList ++ "/".toList = "/api/".toList := by decide
  have hmiddle : "/".toList = ['/'] := by decide
  rw [Gateway.routeText, String.toList_append, String.toList_append, String.toList_append, String.toList_append,
    gateway, rootText_site, routePath, ← hslash, hmiddle]
  simp only [List.append_assoc, List.cons_append, List.nil_append]

/-- **The URL of every function of every entity is that of the site.** -/
theorem route_site (s : Site) (h : s.port < 65536) (kind : Kind) (function : Function) (id : Option Identifier) :
    s.gateway.route kind function id = .ok (s.url kind function id) := by
  have hparse : Url.parse (s.gateway.routeText kind function) = .ok (s.url kind function none) := by
    rw [Url.parse, routeText_site, parse_site s h (opensTail_routePath kind function), located_routePath]
  unfold Gateway.route
  rw [hparse]
  cases id <;> rfl

/-! ## requests to a site -/

/-- What the first line of a request names: the path and the query of its URL. -/
def target (s : Site) (kind : Kind) (function : Function) (id : Option Identifier) : List Char :=
  routePath kind function ++ Http.queryText (s.url kind function id).query

theorem target_cons (s : Site) (kind : Kind) (function : Function) (id : Option Identifier) :
    s.target kind function id = '/' :: (s.target kind function id).tail := rfl

/-- The path and the query of a URL are its target. -/
theorem target_eq (s : Site) (kind : Kind) (function : Function) (id : Option Identifier) :
    (s.url kind function id).path.chars ++ (s.url kind function id).queryChars = s.target kind function id := by
  have hquery : (s.url kind function id).queryChars = Http.queryText (s.url kind function id).query := by
    cases id <;> rfl
  have hpath : (s.url kind function id).path.chars = routePath kind function := by
    cases kind <;> cases function <;> rfl
  rw [hquery, hpath, target]

theorem url_chars (s : Site) (kind : Kind) (function : Function) (id : Option Identifier) :
    (s.url kind function id).chars =
      "http".toList ++ ':' :: '/' :: '/' :: (s.authorityChars ++ s.target kind function id) := by
  rw [← target_eq, Url.chars, Url.charsWithoutFragment, authorityChars, ← chars_localHost]
  simp only [url, Url.authorityChars, Url.userinfoChars, Url.fragmentChars, Url.portChars]
  simp

theorem length_le_url (s : Site) (kind : Kind) (function : Function) (id : Identifier) :
    id.text.toList.length ≤ (s.url kind function (some id)).chars.length := by
  have hencode := Text.FormEncoded.length_le_encode id.text.toList
  rw [url_chars, target]
  simp only [url, Option.map_some, Http.queryText, Text.FormEncoded.pair, List.length_append, List.length_cons]
  omega

theorem isPathChar_routePath (kind : Kind) (function : Function) :
    ∀ c ∈ routePath kind function, Http.isPathChar c ∧ Http.isGraphic c := by
  have hall : (routePath kind function).all fun c => Http.isPathChar c && Http.isGraphic c := by
    cases kind <;> cases function <;> decide
  simpa only [List.all_eq_true, Bool.and_eq_true] using hall

theorem isQueryChar_of_isWritten {c : Char} (h : Text.FormEncoded.isWritten c) :
    Http.isQueryChar c ∧ Http.isGraphic c := by
  have hsigns : ∀ c ∈ ['*', '-', '.', '_', '+', '%'], Http.isQueryChar c ∧ Http.isGraphic c := by
    have hall : ['*', '-', '.', '_', '+', '%'].all fun c => Http.isQueryChar c && Http.isGraphic c := by decide
    simpa only [List.all_eq_true, Bool.and_eq_true] using hall
  simp only [Text.FormEncoded.isWritten, Text.FormEncoded.isPlain, Bool.or_eq_true, decide_eq_true_eq, or_assoc] at h
  rcases h with h | h
  · have hbounds := Text.FormEncoded.bounds_of_isAlphanum h
    simp only [Http.isQueryChar, Http.isGraphic, Bool.or_eq_true, Bool.and_eq_true, decide_eq_true_eq]
    omega
  · exact hsigns c (by simpa using h)

theorem isQueryChar_query (s : Site) (kind : Kind) (function : Function) (id : Option Identifier) :
    ∀ q ∈ (s.url kind function id).query, ∀ c ∈ q, Http.isQueryChar c ∧ Http.isGraphic c := by
  intro q hq c hc
  obtain ⟨i, rfl, rfl⟩ := Option.map_eq_some_iff.1 hq
  rcases List.mem_append.1 hc with hc | hc
  · exact isQueryChar_of_isWritten (Text.FormEncoded.isWritten_of_mem_encode c hc)
  rcases List.mem_cons.1 hc with rfl | hc
  · decide
  · exact isQueryChar_of_isWritten (Text.FormEncoded.isWritten_of_mem_encode c hc)

theorem ofPath?_site (s : Site) (kind : Kind) (function : Function) (id : Option Identifier) :
    Http.Target.ofPath? (s.target kind function id) =
      some ⟨routePath kind function, (s.url kind function id).query.getD []⟩ :=
  Http.Target.ofPath?_append (List.cons_ne_nil _ _) (fun c hc => (isPathChar_routePath kind function c hc).1)
    fun q hq c hc => (s.isQueryChar_query kind function id q hq c hc).1

theorem isGraphic_target (s : Site) (kind : Kind) (function : Function) (id : Option Identifier) :
    ∀ c ∈ s.target kind function id, Http.isGraphic c := by
  intro c hc
  rcases List.mem_append.1 hc with hc | hc
  · exact (isPathChar_routePath kind function c hc).2
  · cases hquery : (s.url kind function id).query with
    | none =>
      rw [hquery] at hc
      cases hc
    | some q =>
      rw [hquery] at hc
      rcases List.mem_cons.1 hc with rfl | hc
      · decide
      · exact (s.isQueryChar_query kind function id q hquery c hc).2

theorem isAuthority_site (s : Site) : Http.isAuthority s.authorityChars := by
  have hhost : hostChars.foldlM Http.AuthorityScan.step? ⟨0, false, false, false, false⟩ =
      some ⟨0, false, false, false, false⟩ := by
    with_unfolding_all rfl
  rcases s.authorityChars_eq with ⟨h, -⟩ | ⟨h, -⟩
  · rw [h, Http.isAuthority, hhost]
    rfl
  · have hport : (portText s.port).foldlM Http.AuthorityScan.step? ⟨0, false, false, false, false⟩ =
        some ⟨1, false, false, false, false⟩ := by
      rw [portText, List.foldlM_cons]
      exact Http.foldlM_step?_of_isDigit rfl fun c hc => isDigit_of_mem_toDigits hc
    rw [h, Http.isAuthority, List.foldlM_append, hhost]
    simp only [Option.bind_eq_bind, Option.bind_some, hport]
    rfl

/-- A request to a URL of the site can be sent, unless the URL is too long. -/
theorem canSend_site (s : Site) {kind : Kind} {function : Function} {id : Option Identifier} {r : Http.Request}
    (hurl : r.url = s.url kind function id) :
    r.canSend = decide ((s.url kind function id).chars.length ≤ Http.maxTargetLength) := by
  have hends : ∀ c ∈ s.authorityChars, c ≠ '/' ∧ c ≠ '?' ∧ c ≠ '#' := by
    intro c hc
    obtain ⟨hslash, hquestion, hnumber⟩ := Url.ends_of_isInner (s.isInner_authorityChars c hc)
    refine ⟨?_, hquestion, hnumber⟩
    rintro rfl
    cases hslash
  have hparse : Http.Target.parse? (s.url kind function id).chars =
      some ⟨routePath kind function, (s.url kind function id).query.getD []⟩ := by
    rw [url_chars, target_cons, Http.Target.parse?_absolute s.authorityChars_ne s.isAuthority_site hends,
      ← target_cons, ofPath?_site]
  rw [Http.Request.canSend, hurl, hparse]
  simp [url]

theorem covers_site (s : Site) (kind : Kind) (function : Function) (id : Option Identifier) :
    s.covers (s.url kind function id) := by
  have hport : s.port?.or (Url.defaultPort "http".toList) = some s.port := by
    by_cases h : s.port = 80
    · simp [port?, h, Url.defaultPort]
    · simp [port?, h]
  simp only [covers, url, hport, decide_true, Bool.and_true]

/-- The field for the host of a site. -/
def hostField (s : Site) : String × Text.Bytes := ("host", Text.Utf8.encode s.authorityChars)

/-- The headers of a read. -/
def readHeaders (s : Site) : Http.Headers := [("accept", Gateway.anyType), s.hostField]

/-- The headers of an invocation. -/
def callHeaders (s : Site) : Http.Headers :=
  [("accept", Gateway.anyType), (Http.contentTypeName, Text.utf8 Http.jsonType), s.hostField]

theorem hostHeader_site (s : Site) (kind : Kind) (function : Function) (id : Option Identifier) :
    Gateway.hostHeader (s.url kind function id) = s.hostField := by
  rw [hostField, authorityChars, ← chars_localHost]
  rfl

theorem readRequest_site (s : Site) (kind : Kind) (function : Function) (id : Option Identifier) :
    s.gateway.readRequest (s.url kind function id) = ⟨"GET", s.url kind function id, s.readHeaders, []⟩ := by
  unfold Gateway.readRequest Gateway.request
  rw [hostHeader_site]
  rfl

theorem invocationRequest_site (s : Site) (kind : Kind) (function : Function) (id : Option Identifier)
    (args : Json.Value) :
    s.gateway.invocationRequest (s.url kind function id) args =
      ⟨"PATCH", s.url kind function id, s.callHeaders, Text.utf8 args.compact⟩ := by
  unfold Gateway.invocationRequest Gateway.request
  rw [hostHeader_site]
  rfl

theorem isGraphic_authorityChars (s : Site) : ∀ c ∈ s.authorityChars, Http.isGraphic c :=
  forall_mem_authorityChars (P := fun c => Http.isGraphic c) (List.all_eq_true.1 (by decide)) (by decide)
    (fun _ hc => Http.isGraphic_of_isDigit hc) s

theorem writable_accept : Http.Writable ("accept", Gateway.anyType) ∧ Http.Unframing ("accept", Gateway.anyType) :=
  ⟨Http.writable_of_isGraphic (by decide) (List.all_eq_true.1 (by decide)) (by decide)
    (List.all_eq_true.1 (by decide)), by decide, by decide⟩

theorem writable_contentType : Http.Writable (Http.contentTypeName, Text.utf8 Http.jsonType) ∧
    Http.Unframing (Http.contentTypeName, Text.utf8 Http.jsonType) :=
  ⟨Http.writable_of_isGraphic (by decide) (List.all_eq_true.1 (by decide)) (by decide)
    (List.all_eq_true.1 (by decide)), by decide, by decide⟩

theorem writable_hostField (s : Site) : Http.Writable s.hostField ∧ Http.Unframing s.hostField := by
  have hname : Http.lowerName "host" ≠ Http.codingName ∧ Http.lowerName "host" ≠ Http.lengthName := by decide
  exact ⟨Http.writable_of_isGraphic (by decide) (List.all_eq_true.1 (by decide)) (by decide)
    s.isGraphic_authorityChars, hname⟩

theorem writable_readHeaders (s : Site) : ∀ f ∈ s.readHeaders, Http.Writable f ∧ Http.Unframing f := by
  intro f hf
  simp only [readHeaders, List.mem_cons, List.not_mem_nil, or_false] at hf
  rcases hf with rfl | rfl
  · exact writable_accept
  · exact s.writable_hostField

theorem writable_callHeaders (s : Site) : ∀ f ∈ s.callHeaders, Http.Writable f ∧ Http.Unframing f := by
  intro f hf
  simp only [callHeaders, List.mem_cons, List.not_mem_nil, or_false] at hf
  rcases hf with rfl | rfl | rfl
  · exact writable_accept
  · exact writable_contentType
  · exact s.writable_hostField

/-! ## what arrives -/

theorem length_authorityChars (s : Site) (h : s.port < 65536) : s.authorityChars.length ≤ 15 := by
  have hhost : hostChars.length = 9 := by decide
  have hdigits : (Nat.toDigits 10 s.port).length ≤ 5 :=
    (Nat.length_toDigits_le_iff (by decide) (by decide)).2 (by omega)
  rcases s.authorityChars_eq with ⟨hchars, -⟩ | ⟨hchars, -⟩
  · rw [hchars]
    omega
  · rw [hchars, List.length_append, portText, List.length_cons]
    omega

/-- A read or an invocation at a URL of the site, with a body of less than ten million bytes. -/
structure Directed (s : Site) (kind : Kind) (function : Function) (id : Option Identifier) (r : Http.Request) :
    Prop where
  url_eq : r.url = s.url kind function id
  method : r.method = "GET" ∧ r.headers = s.readHeaders ∨ r.method = "PATCH" ∧ r.headers = s.callHeaders
  body_lt : r.body.length < 10000000

/-- What is sent for a read. -/
theorem Directed.read (s : Site) (kind : Kind) (function : Function) (id : Option Identifier) :
    s.Directed kind function id ⟨"GET", s.url kind function id, s.readHeaders, []⟩ :=
  ⟨rfl, .inl ⟨rfl, rfl⟩, Nat.zero_lt_succ _⟩

/-- What is sent for an invocation. -/
theorem Directed.invocation (s : Site) (kind : Kind) (function : Function) (id : Option Identifier)
    {body : Text.Bytes} (h : body.length < 10000000) :
    s.Directed kind function id ⟨"PATCH", s.url kind function id, s.callHeaders, body⟩ :=
  ⟨rfl, .inr ⟨rfl, rfl⟩, h⟩

theorem Directed.target_eq {s : Site} {kind : Kind} {function : Function} {id : Option Identifier} {r : Http.Request}
    (h : s.Directed kind function id r) : r.target = s.target kind function id := by
  rw [Http.Request.target, h.url_eq, Site.target_eq]

theorem length_hostField (s : Site) (h : s.port < 65536) : Http.fieldLength s.hostField ≤ 23 := by
  have hvalue : (Text.Utf8.encode s.authorityChars).length ≤ 15 := by
    rw [Http.length_encode_of_isGraphic s.isGraphic_authorityChars]
    exact s.length_authorityChars h
  have hname : "host".toList.length = 4 := by decide
  simp only [Http.fieldLength, hostField]
  omega

theorem Directed.length_declared {s : Site} (hport : s.port < 65536) {kind : Kind} {function : Function}
    {id : Option Identifier} {r : Http.Request} (h : s.Directed kind function id r) :
    (r.declared.map Http.fieldLength).sum ≤ 200 := by
  have hhost := s.length_hostField hport
  have haccept : Http.fieldLength ("accept", Gateway.anyType) = 13 := by decide
  have htype : Http.fieldLength (Http.contentTypeName, Text.utf8 Http.jsonType) = 32 := by decide
  have hheaders : (r.headers.map Http.fieldLength).sum ≤ 100 := by
    rcases h.method with ⟨-, hh⟩ | ⟨-, hh⟩
    · rw [hh]
      simp only [readHeaders, List.map_cons, List.map_nil, List.sum_cons, List.sum_nil]
      omega
    · rw [hh]
      simp only [callHeaders, List.map_cons, List.map_nil, List.sum_cons, List.sum_nil]
      omega
  have hlength : Http.fieldLength (Http.lengthName, Text.utf8 (toString r.body.length)) ≤ 30 := by
    have hdigits : (Nat.toDigits 10 r.body.length).length ≤ 7 := by
      have hbody := h.body_lt
      exact (Nat.length_toDigits_le_iff (by decide) (by decide)).2 (by omega)
    have hname : Http.lengthName.toList.length = 14 := by decide
    rw [Http.fieldLength, Http.utf8_toString, List.length_map]
    simp only [hname]
    omega
  unfold Http.Request.declared
  split
  · omega
  · rw [List.map_append, List.sum_append, List.map_singleton, List.sum_singleton]
    omega

/-- **A request arrives at the site as it was meant**: the path names the class and the function, and the query the
identifier. -/
theorem Directed.ofWire {s : Site} (hport : s.port < 65536) {kind : Kind} {function : Function}
    {id : Option Identifier} {r : Http.Request} (h : s.Directed kind function id r)
    (hlength : (s.url kind function id).chars.length ≤ Http.maxTargetLength) :
    Arrival.ofWire r.wire =
      .ok ⟨r.method, ⟨routePath kind function, (s.url kind function id).query.getD []⟩, r.declared, some r.body⟩ := by
  have htarget : r.target.length ≤ Http.maxTargetLength := by
    rw [url_chars] at hlength
    simp only [h.target_eq, List.length_append, List.length_cons] at hlength ⊢
    omega
  have hgraphic : ∀ c ∈ r.target, Http.isGraphic c := h.target_eq ▸ s.isGraphic_target kind function id
  have hparse : Http.Target.parse? r.target =
      some ⟨routePath kind function, (s.url kind function id).query.getD []⟩ := by
    rw [h.target_eq, target_cons, Http.Target.parse?_path, ← target_cons, ofPath?_site]
  have hline : Http.WritableLine r.method r.target := by
    refine ⟨?_, ?_, h.target_eq ▸ List.cons_ne_nil _ _, hgraphic⟩
    · rcases h.method with ⟨hm, -⟩ | ⟨hm, -⟩ <;> rw [hm] <;> decide
    · rcases h.method with ⟨hm, -⟩ | ⟨hm, -⟩ <;> rw [hm] <;> exact List.all_eq_true.1 (by decide)
  have hfields : ∀ f ∈ r.headers, Http.Writable f ∧ Http.Unframing f := by
    rcases h.method with ⟨-, hh⟩ | ⟨-, hh⟩
    · exact hh ▸ s.writable_readHeaders
    · exact hh ▸ s.writable_callHeaders
  have hcount : r.headers.length < Http.maxFields := by
    rcases h.method with ⟨-, hh⟩ | ⟨-, hh⟩
    · exact hh ▸ (by decide : 2 < 100)
    · exact hh ▸ (by decide : 3 < 100)
  have hsize : r.method.toList.length + r.target.length + (r.declared.map Http.fieldLength).sum + 14 ≤
      Http.maxHead := by
    have hmethod : r.method.toList.length ≤ 5 := by
      rcases h.method with ⟨hm, -⟩ | ⟨hm, -⟩ <;> rw [hm] <;> decide
    have htarget : r.target.length ≤ 65534 := htarget
    have hdeclared := h.length_declared hport
    have hmax : Http.maxHead = 417792 := rfl
    omega
  exact Http.Request.ofWire_wire hline htarget hparse hfields hcount hsize
    (Nat.le_trans (Nat.le_of_lt h.body_lt) (by decide))

end ProcessGraph.Fixture.Site
