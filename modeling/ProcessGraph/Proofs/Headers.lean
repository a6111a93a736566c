import ProcessGraph.Proofs.Readiness
import ProcessGraph.Proofs.Resolution
import ProcessGraph.Proofs.Validation

/-!
# Configured headers

* `Keyed.find?_ofPairs_eq_some_iff`: of several values for one name, the last one counts.
* `Http.Faulty`, `Http.Refused`: what is wrong with a header, its name before its value.
* `Http.Headers.insertPairs_of_first`, `Http.Headers.insertPairs_of_forall`: the first header at fault is reported;
  if there is none, all of them are kept under their names in lower case.
* `Http.Headers.find?_withDefaults`: default headers give way to those that are there.
* `Http.Request.Invokes`, `Connection.Composed`: a request with the headers of an invocation, and an exchange of
  such a request, if there is a URL for it.
* `Config.Endpoint.Misplaced`: what is wrong with the URLs of an endpoint.
* `Gateway.Built`: how the building of a gateway ends.
* `Gateway.headers_configured`: how an endpoint gets its headers, and that they leave invocations as they are.
-/

namespace ProcessGraph

/-! ## the last value of a name -/

theorem latest_map_iff {α β : Type} {P : β → Prop} {f : α → β} {xs : List α} {y : β} :
    Latest P (xs.map f) y ↔ ∃ x, Latest (fun x => P (f x)) xs x ∧ f x = y := by
  constructor
  · rintro ⟨before, later, heq, hy, hlater⟩
    obtain ⟨front, rest, rfl, rfl, hrest⟩ := List.map_eq_append_iff.1 heq
    obtain ⟨x, back, rfl, rfl, rfl⟩ := List.map_eq_cons_iff.1 hrest
    exact ⟨x, ⟨front, back, rfl, hy, fun z hz => hlater _ (List.mem_map_of_mem hz)⟩, rfl⟩
  · rintro ⟨x, ⟨before, later, rfl, hx, hlater⟩, rfl⟩
    refine ⟨before.map f, later.map f, by simp, hx, fun z hz => ?_⟩
    obtain ⟨w, hw, rfl⟩ := List.mem_map.1 hz
    exact hlater w hw

namespace Keyed

variable {κ α : Type} [DecidableEq κ]

theorem find?_insertAll_eq_some_iff {pairs : List (κ × α)} {entries : Keyed κ α} {key : κ} {value : α} :
    find? key (insertAll pairs entries) = some value ↔
      Latest (·.1 = key) pairs (key, value) ∨ (∀ p ∈ pairs, p.1 ≠ key) ∧ find? key entries = some value := by
  induction pairs generalizing entries with
  | nil => simp [insertAll, Latest]
  | cons p rest ih =>
    obtain ⟨k, v⟩ := p
    have hstep : insertAll ((k, v) :: rest) entries = insertAll rest (insert k v entries) := rfl
    rw [hstep, ih, find?_insert, latest_cons_iff, or_assoc]
    refine or_congr_right ?_
    by_cases hk : k = key
    · simp [hk, eq_comm, and_comm]
    · simp [hk]

/-- Of several values for one name, the last one counts. -/
theorem find?_ofPairs_eq_some_iff {pairs : List (κ × α)} {key : κ} {value : α} :
    find? key (ofPairs pairs) = some value ↔ Latest (·.1 = key) pairs (key, value) := by
  rw [ofPairs, find?_insertAll_eq_some_iff]
  simp [find?]

theorem find?_insertNew {key k : κ} {value : α} {entries : Keyed κ α} :
    find? k (insertNew key value entries) = (find? k entries).or (if key = k then some value else none) := by
  unfold insertNew
  split
  · next hfound =>
    split
    · next hk =>
      obtain ⟨v, hv⟩ := Option.isSome_iff_exists.1 hfound
      rw [← hk, hv, Option.some_or]
    · rw [Option.or_none]
  · next hmissing =>
    rw [find?_insert]
    split
    · next hk =>
      rw [← hk, Option.not_isSome_iff_eq_none.1 hmissing, Option.none_or]
    · rw [Option.or_none]

theorem nodup_keys_insertNew {key : κ} {value : α} {entries : Keyed κ α} (h : (keys entries).Nodup) :
    (keys (insertNew key value entries)).Nodup := by
  unfold insertNew
  split
  · exact h
  · exact nodup_keys_insert h

end Keyed

/-! ## the first header at fault -/

theorem first_cons_iff {α : Type} {P : α → Prop} {a x : α} {xs : List α} :
    First P (a :: xs) x ↔ P a ∧ x = a ∨ ¬ P a ∧ First P xs x := by
  constructor
  · rintro ⟨before, after, heq, hx, hbefore⟩
    cases before with
    | nil =>
      obtain ⟨rfl, rfl⟩ := List.cons.inj heq
      exact .inl ⟨hx, rfl⟩
    | cons b before =>
      obtain ⟨rfl, hxs⟩ := List.cons.inj heq
      exact .inr ⟨hbefore _ List.mem_cons_self, before, after, hxs, hx,
        fun y hy => hbefore y (List.mem_cons_of_mem _ hy)⟩
  · rintro (⟨ha, rfl⟩ | ⟨ha, before, after, rfl, hx, hbefore⟩)
    · exact ⟨[], xs, rfl, ha, by simp⟩
    · exact ⟨a :: before, after, rfl, hx, List.forall_mem_cons.2 ⟨ha, hbefore⟩⟩

namespace Http

/-- What is wrong with a header: its name, or else its value. -/
inductive Faulty : String × String → String → Prop where
  | name {name value : String} (h : isName name = false) : Faulty (name, value) invalidName
  | value {name value : String} (hname : isName name) (h : isValue (Text.utf8 value) = false) :
      Faulty (name, value) invalidValue

/-- Is something wrong with a header? -/
def Refused (p : String × String) : Prop := ∃ reason, Faulty p reason

/-- A header as it is kept: its name in lower case, and the bytes of its value. -/
def kept (p : String × String) : String × Text.Bytes := (lowerName p.1, Text.utf8 p.2)

theorem refused_iff {p : String × String} : Refused p ↔ isName p.1 = false ∨ isValue (Text.utf8 p.2) = false := by
  constructor
  · rintro ⟨reason, hname | ⟨-, hvalue⟩⟩
    · exact .inl hname
    · exact .inr hvalue
  · intro h
    cases hname : isName p.1 with
    | false => exact ⟨_, .name hname⟩
    | true =>
      refine ⟨_, .value hname (h.resolve_left ?_)⟩
      simp [hname]

theorem checkHeader_of_faulty {p : String × String} {reason : String} (h : Faulty p reason) :
    checkHeader p.1 p.2 = .error (.invalidHeader p.1 reason) := by
  cases h with
  | name hname => simp [checkHeader, hname]
  | value hname hvalue => simp [checkHeader, hname, hvalue]

theorem checkHeader_of_not_refused {p : String × String} (h : ¬ Refused p) : checkHeader p.1 p.2 = .ok (kept p) := by
  rw [refused_iff, not_or, Bool.not_eq_false, Bool.not_eq_false] at h
  simp [checkHeader, h.1, h.2, kept]

namespace Headers

theorem insertPairs_cons_of_faulty {p : String × String} {reason : String} (h : Faulty p reason)
    (rest : List (String × String)) (hs : Headers) :
    insertPairs (p :: rest) hs = .error (.invalidHeader p.1 reason) := by
  rw [insertPairs, checkHeader_of_faulty h]

theorem insertPairs_cons_of_not_refused {p : String × String} (h : ¬ Refused p) (rest : List (String × String))
    (hs : Headers) : insertPairs (p :: rest) hs = insertPairs rest (Keyed.insertAll [kept p] hs) := by
  rw [insertPairs, checkHeader_of_not_refused h]
  rfl

/-- The first header at fault is reported, whatever is wrong with later ones. -/
theorem insertPairs_of_first {pairs : List (String × String)} {p : String × String} {reason : String}
    (hfirst : First Refused pairs p) (h : Faulty p reason) (hs : Headers) :
    insertPairs pairs hs = .error (.invalidHeader p.1 reason) := by
  induction pairs generalizing hs with
  | nil => simpa using hfirst.mem
  | cons q rest ih =>
    rcases first_cons_iff.1 hfirst with ⟨-, rfl⟩ | ⟨hq, hrest⟩
    · exact insertPairs_cons_of_faulty h rest hs
    · rw [insertPairs_cons_of_not_refused hq]
      exact ih hrest _

theorem insertPairs_of_forall {pairs : List (String × String)} (h : ∀ p ∈ pairs, ¬ Refused p) (hs : Headers) :
    insertPairs pairs hs = .ok (Keyed.insertAll (pairs.map kept) hs) := by
  induction pairs generalizing hs with
  | nil => rfl
  | cons p rest ih =>
    obtain ⟨hp, hrest⟩ := List.forall_mem_cons.1 h
    rw [insertPairs_cons_of_not_refused hp, ih hrest]
    rfl

end Headers

/-- Where some header is refused, one is the first. -/
theorem exists_first_refused (pairs : List (String × String)) :
    (∃ p reason, First Refused pairs p ∧ Faulty p reason) ∨ ∀ p ∈ pairs, ¬ Refused p := by
  classical
  cases hfind : pairs.find? (fun p => decide (Refused p)) with
  | none => exact .inr (by simpa using hfind)
  | some p =>
    have hfirst : First Refused pairs p := by simpa using find?_eq_some_iff_first.1 hfind
    obtain ⟨reason, hreason⟩ := hfirst.mem.2
    exact .inl ⟨p, reason, hfirst, hreason⟩

namespace Headers

/-! ## default headers -/

/-- Default headers give way to those that are there. -/
theorem find?_withDefaults (name : String) (defaults hs : Headers) :
    Keyed.find? name (withDefaults defaults hs) = (Keyed.find? name hs).or (Keyed.find? name defaults) := by
  induction defaults generalizing hs with
  | nil => simp [withDefaults, Keyed.find?]
  | cons d rest ih =>
    obtain ⟨key, value⟩ := d
    have hstep : withDefaults ((key, value) :: rest) hs = withDefaults rest (Keyed.insertNew key value hs) := rfl
    rw [hstep, ih, Keyed.find?_insertNew, Option.or_assoc, Keyed.find?]
    split <;> rfl

theorem nodup_keys_withDefaults (defaults : Headers) {hs : Headers} (h : (Keyed.keys hs).Nodup) :
    (Keyed.keys (withDefaults defaults hs)).Nodup := by
  induction defaults generalizing hs with
  | nil => exact h
  | cons d rest ih => exact ih (Keyed.nodup_keys_insertNew h)

end Headers

/-! ## requests of invocations -/

/-- Is a request one of an invocation? It has one header for the types that it accepts, which are all, and one for
the type of its body, which is that of documents. -/
structure Request.Invokes (r : Request) : Prop where
  method : r.method = "PATCH"
  distinct : (Keyed.keys r.headers).Nodup
  accept : Keyed.find? "accept" r.headers = some (Text.utf8 "*/*")
  contentType : Keyed.find? "content-type" r.headers = some (Text.utf8 "application/json")

end Http

/-- Whatever the default headers are, the request of an invocation has its own. -/
theorem Gateway.invokes_invocationRequest (g : Gateway) (url : Url) (args : Json.Value) :
    (g.invocationRequest url args).Invokes where
  method := rfl
  distinct := by
    refine Http.Headers.nodup_keys_withDefaults _ (Http.Headers.nodup_keys_withDefaults _
      (Http.Headers.nodup_keys_withDefaults _ ?_))
    decide
  accept := by
    simp only [invocationRequest, request, Http.Headers.find?_withDefaults]
    rfl
  contentType := by
    simp only [invocationRequest, request, Http.Headers.find?_withDefaults]
    rfl

/-- What comes of the invocation of a process over a connection: a request with the headers and the body of an
invocation is exchanged, or there is no URL for one, and nothing is sent. -/
inductive Connection.Composed {π : Type} [Http.Peer π] (c : Connection π) (function : Function) (id : Identifier)
    (args : Json.Value) : Option (Answer (Option Payload)) × Connection π → Prop where
  | sent {url : Url} {r : Http.Request} (h : c.gateway.route .process function (some id) = .ok url) (hr : r.Invokes)
      (hbody : r.body = Text.utf8 args.compact) :
      Composed c function id args (c.exchange r (Gateway.interpretInvocation id function))
  | unsent {cause : Url.Error} (h : c.gateway.route .process function (some id) = .error cause) :
      Composed c function id args (some ⟨0, none, [Gateway.noUrlWarning id]⟩, c)

theorem Connection.composed_invoke {π : Type} [Http.Peer π] (c : Connection π) (function : Function)
    (id : Identifier) (args : Json.Value) : c.Composed function id args (c.invoke function id args) := by
  unfold invoke
  split
  next cause hroute => exact .unsent hroute
  next url hroute => exact .sent hroute (c.gateway.invokes_invocationRequest url args) rfl

/-! ## the headers of an endpoint -/

/-- What is wrong with the URLs of an endpoint: the one that it gives, or else the root of its routes. -/
inductive Config.Endpoint.Misplaced (e : Config.Endpoint) : Url.Error → Prop where
  | base {cause : Url.Error} (h : Url.parse e.baseUrl = .error cause) : Misplaced e cause
  | root {u : Url} {cause : Url.Error} (hu : Url.parse e.baseUrl = .ok u)
      (h : Url.parse (Gateway.rootText u e.apiPrefix) = .error cause) : Misplaced e cause

namespace Gateway

theorem ofEndpoint_of_misplaced {e : Config.Endpoint} {cause : Url.Error} (h : e.Misplaced cause) :
    ofEndpoint e = .error (.invalidUrl cause) := by
  cases h with
  | base hbase =>
    have hparse : parseUrl e.baseUrl = .error (.invalidUrl cause) := by simp [parseUrl, hbase, Except.mapError]
    rw [ofEndpoint, hparse]
    rfl
  | @root u _ hu hroot =>
    have hparse : parseUrl e.baseUrl = .ok u := by simp [parseUrl, hu, Except.mapError]
    have hagain : parseUrl (dropSlashes u.text ++ dropSlashes e.apiPrefix) = .error (.invalidUrl cause) := by
      rw [parseUrl, ← rootText, hroot]
      rfl
    unfold ofEndpoint
    simp only [hparse, hagain, bind, Except.bind]

/-- How the building of a gateway ends: a URL is at fault, or else a header, or else neither is. -/
inductive Built (e : Config.Endpoint) : Except ClientError Gateway → Prop where
  | misplaced {cause : Url.Error} (h : e.Misplaced cause) : Built e (.error (.invalidUrl cause))
  | refused {p : String × String} {reason : String} (hurls : ∀ cause, ¬ e.Misplaced cause)
      (hfirst : First Http.Refused e.headers p) (h : Http.Faulty p reason) :
      Built e (.error (.invalidHeader p.1 reason))
  | built {u : Url} (hu : Url.parse e.baseUrl = .ok u) (hurls : ∀ cause, ¬ e.Misplaced cause)
      (h : ∀ p ∈ e.headers, ¬ Http.Refused p) :
      Built e (.ok ⟨rootText u e.apiPrefix, Keyed.ofPairs (e.headers.map Http.kept)⟩)

/-- Unless one of its URLs is at fault, the headers decide whether an endpoint has a gateway. -/
theorem ofEndpoint_of_not_misplaced {e : Config.Endpoint} (h : ∀ cause, ¬ e.Misplaced cause) :
    ∃ u, Url.parse e.baseUrl = .ok u ∧
      ofEndpoint e = (Http.Headers.ofPairs e.headers).map fun hs => ⟨rootText u e.apiPrefix, hs⟩ := by
  cases hu : Url.parse e.baseUrl with
  | error cause => exact absurd (.base hu) (h cause)
  | ok u =>
    cases hv : Url.parse (rootText u e.apiPrefix) with
    | error cause => exact absurd (.root hu hv) (h cause)
    | ok v => exact ⟨u, rfl, ofEndpoint_eq hu hv⟩

theorem Built.ofEndpoint_eq {e : Config.Endpoint} {r : Except ClientError Gateway} (h : Built e r) :
    ofEndpoint e = r := by
  cases h with
  | misplaced hcause => exact ofEndpoint_of_misplaced hcause
  | refused hurls hfirst hreason =>
    obtain ⟨u, -, heq⟩ := ofEndpoint_of_not_misplaced hurls
    rw [heq, Http.Headers.ofPairs, Http.Headers.insertPairs_of_first hfirst hreason]
    rfl
  | built hu hurls hheaders =>
    obtain ⟨v, hv, heq⟩ := ofEndpoint_of_not_misplaced hurls
    obtain rfl := Except.ok.inj (hu.symm.trans hv)
    rw [heq, Http.Headers.ofPairs, Http.Headers.insertPairs_of_forall hheaders]
    rfl

theorem exists_built (e : Config.Endpoint) : ∃ r, Built e r := by
  by_cases hmisplaced : ∃ cause, e.Misplaced cause
  · obtain ⟨cause, hcause⟩ := hmisplaced
    exact ⟨_, .misplaced hcause⟩
  rw [not_exists] at hmisplaced
  rcases Http.exists_first_refused e.headers with ⟨p, reason, hfirst, hreason⟩ | hnone
  · exact ⟨_, .refused hmisplaced hfirst hreason⟩
  · obtain ⟨u, hu, -⟩ := ofEndpoint_of_not_misplaced hmisplaced
    exact ⟨_, .built hu hmisplaced hnone⟩

theorem built_ofEndpoint (e : Config.Endpoint) : Built e (ofEndpoint e) := by
  obtain ⟨r, hr⟩ := exists_built e
  rwa [hr.ofEndpoint_eq]

/-- The value of a header is that of the last entry with its name, in whatever case. -/
theorem find?_kept_iff {pairs : List (String × String)} {key : String} {value : Text.Bytes} :
    Keyed.find? key (Keyed.ofPairs (pairs.map Http.kept)) = some value ↔
      ∃ p, Latest (fun p => Http.lowerName p.1 = key) pairs p ∧ value = Text.utf8 p.2 := by
  rw [Keyed.find?_ofPairs_eq_some_iff, latest_map_iff]
  refine exists_congr fun p => and_congr_right fun hp => ?_
  obtain ⟨before, later, -, hkey, -⟩ := hp
  have hkey : Http.lowerName p.1 = key := hkey
  rw [Http.kept, hkey, Prod.mk.injEq, and_iff_right rfl, eq_comm]

/-- **The headers of an endpoint.** If a URL is at fault, it is reported, whatever the headers are. If not, the
first header at fault is, its name before its value. If there is none, the gateway has every name of a header once,
in lower case, with the value of the last entry spelled so, and no other names. Whatever headers a gateway has, its
calls and executions have their own for the types that they accept and send. -/
theorem headers_configured (e : Config.Endpoint) :
    (∀ cause, ofEndpoint e = .error (.invalidUrl cause) ↔ e.Misplaced cause) ∧
      (∀ name reason, ofEndpoint e = .error (.invalidHeader name reason) ↔
        (∀ cause, ¬ e.Misplaced cause) ∧
          ∃ value, First Http.Refused e.headers (name, value) ∧ Http.Faulty (name, value) reason) ∧
      ((∃ g, ofEndpoint e = .ok g) ↔ (∀ cause, ¬ e.Misplaced cause) ∧ ∀ p ∈ e.headers, ¬ Http.Refused p) ∧
      (∀ g, ofEndpoint e = .ok g → (Keyed.keys g.headers).Nodup ∧
        ∀ key value, Keyed.find? key g.headers = some value ↔
          ∃ p, Latest (fun p => Http.lowerName p.1 = key) e.headers p ∧ value = Text.utf8 p.2) ∧
      ∀ (π : Type) [Http.Peer π] (c : Connection π) (id : Identifier) (args : Json.Value),
        c.Composed .call id args (c.answer (.call id args)) ∧
          c.Composed .execute id .emptyObject (c.answer (.execute id)) := by
  have hbuilt := built_ofEndpoint e
  refine ⟨fun cause => ⟨fun h => ?_, ofEndpoint_of_misplaced⟩, fun name reason => ⟨fun h => ?_, ?_⟩,
    ⟨?_, ?_⟩, fun g h => ?_, fun π _ c id args => ⟨c.composed_invoke .call id args, c.composed_invoke .execute id _⟩⟩
  · rw [h] at hbuilt
    cases hbuilt with
    | misplaced hcause => exact hcause
  · rw [h] at hbuilt
    cases hbuilt with
    | refused hurls hfirst hreason => exact ⟨hurls, _, hfirst, hreason⟩
  · rintro ⟨hurls, value, hfirst, hreason⟩
    exact (Built.refused hurls hfirst hreason).ofEndpoint_eq
  · rintro ⟨g, h⟩
    rw [h] at hbuilt
    cases hbuilt with
    | built hu hurls hheaders => exact ⟨hurls, hheaders⟩
  · rintro ⟨hurls, hheaders⟩
    obtain ⟨u, hu, -⟩ := ofEndpoint_of_not_misplaced hurls
    exact ⟨_, (Built.built hu hurls hheaders).ofEndpoint_eq⟩
  · rw [h] at hbuilt
    cases hbuilt with
    | built hu hurls hheaders => exact ⟨Keyed.nodup_keys_ofPairs _, fun key value => find?_kept_iff⟩

/-- Of two values for one name the last one counts, and a value at fault is reported before a later name at fault. -/
theorem headers_configured_folded :
    let e : Config.Endpoint := { headers := [("X-Mode", "a"), ("Accept", "text/html"), ("x-mode", "b")] }
    let f : Config.Endpoint := { headers := [("X-Mode", "\n"), ("x mode", "b")] }
    let g : Gateway := ⟨"http://localhost:8080/api", [("x-mode", Text.utf8 "b"), ("accept", Text.utf8 "text/html")]⟩
    (ofEndpoint e = .ok g ∧ Keyed.find? "x-mode" g.headers = some (Text.utf8 "b")) ∧
      ofEndpoint f = .error (.invalidHeader "X-Mode" Http.invalidValue) ∧
        ∃ value, First Http.Refused f.headers ("X-Mode", value) ∧ Http.Faulty ("X-Mode", value) Http.invalidValue := by
  intro e f g
  have hg : ofEndpoint { headers := [("X-Mode", "a"), ("Accept", "text/html"), ("x-mode", "b")] } =
      .ok ⟨"http://localhost:8080/api", [("x-mode", Text.utf8 "b"), ("accept", Text.utf8 "text/html")]⟩ := by
    with_unfolding_all rfl
  have hf : ofEndpoint { headers := [("X-Mode", "\n"), ("x mode", "b")] } =
      .error (.invalidHeader "X-Mode" Http.invalidValue) := by
    with_unfolding_all rfl
  have hlatest : Latest (fun p => Http.lowerName p.1 = "x-mode") e.headers ("x-mode", "b") :=
    ⟨[("X-Mode", "a"), ("Accept", "text/html")], [], rfl, by decide, by simp⟩
  exact ⟨⟨hg, (((headers_configured e).2.2.2.1 g hg).2 _ _).2 ⟨_, hlatest, rfl⟩⟩, hf,
    (((headers_configured f).2.1 _ _).1 hf).2⟩

end Gateway

end ProcessGraph
