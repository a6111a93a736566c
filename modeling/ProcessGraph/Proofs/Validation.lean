import Mathlib.Data.List.Basic
import ProcessGraph.Command.Tool
import ProcessGraph.Proofs.Authority

/-!
# Validated configurations

* `Config.validate_of_load` and its siblings: every way to a configuration validates it.
* `Config.Loaded`: the configurations that a client can come by.
* `Gateway.ofEndpoint_of_validate`: a valid endpoint has a gateway, unless a header is at fault, and the routes of
  the gateway lead to the place that its URL names.
* `loaded_configs_usable`: both, for every configuration that a client can come by.
-/

namespace ProcessGraph

/-! ## ways to a configuration -/

namespace Config

theorem validate_of_parseOr {refusal : Error} {text : String} {c : Config} (h : parseOr refusal text = .ok c) :
    c.validate = .ok () := by
  unfold parseOr at h
  cases hdecode : decode? text with
  | none => simp [hdecode, throw, throwThe, MonadExceptOf.throw] at h
  | some config =>
    rw [hdecode] at h
    obtain ⟨⟨⟩, hvalid, h⟩ := exists_of_bind_eq_ok h
    obtain rfl := Except.ok.inj h
    exact hvalid

theorem validate_of_load {files : FileView} {path : String} {c : Config} (h : load files path = .ok c) :
    c.validate = .ok () := by
  unfold load at h
  split at h
  · cases h
  · exact validate_of_parseOr h

theorem validate_of_discover {files : FileView} {given : Option String} {candidates : List String} {found : Found}
    (h : discover files given candidates = .ok (some found)) : found.config.validate = .ok () := by
  unfold discover at h
  split at h
  · cases h
  · obtain ⟨config, hload, hfound⟩ := exists_of_map_eq_ok h
    obtain rfl := Option.some.inj hfound
    exact validate_of_load hload

theorem validate_of_loadFound {files : FileView} {given : Option String} {candidates : List String} {found : Found}
    (h : loadFound files given candidates = .ok found) : found.config.validate = .ok () := by
  obtain ⟨discovered, hdiscover, h⟩ := exists_of_bind_eq_ok h
  cases discovered with
  | none => cases h
  | some found' =>
    obtain rfl := Except.ok.inj h
    exact validate_of_discover hdiscover

theorem validate_default : validate {} = .ok () := by
  with_unfolding_all rfl

theorem validate_of_loadOrDefault {files : FileView} {given : Option String} {candidates : List String}
    {found : Found} (h : loadOrDefault files given candidates = .ok found) : found.config.validate = .ok () := by
  obtain ⟨discovered, hdiscover, h⟩ := exists_of_bind_eq_ok h
  cases discovered with
  | none =>
    obtain rfl := Except.ok.inj h
    exact validate_default
  | some found' =>
    obtain rfl := Except.ok.inj h
    exact validate_of_discover hdiscover

end Config

namespace Command

/-- An override is validated with the rest. -/
theorem validate_of_override {c d : Config} (hc : c.validate = .ok ()) {baseUrl : Option String}
    (h : (match baseUrl with
      | none => return c
      | some url => do
        let config := { c with endpoint := { c.endpoint with baseUrl := url } }
        config.validate
        return config : Except Config.Error Config) = .ok d) : d.validate = .ok () := by
  cases baseUrl with
  | none =>
    obtain rfl := Except.ok.inj h
    exact hc
  | some url =>
    obtain ⟨⟨⟩, hvalid, h⟩ := exists_of_bind_eq_ok h
    obtain rfl := Except.ok.inj h
    exact hvalid

theorem validate_of_loadConfig {files : FileView} {configPath explicit baseUrl : Option String} {c : Config}
    (h : loadConfig files configPath explicit baseUrl = .ok c) : c.validate = .ok () := by
  unfold loadConfig at h
  cases explicit with
  | some path =>
    obtain ⟨config, hload, h⟩ := exists_of_bind_eq_ok h
    exact validate_of_override (Config.validate_of_load hload) h
  | none =>
    obtain ⟨config, hload, h⟩ := exists_of_bind_eq_ok h
    obtain ⟨found, hfound, rfl⟩ := exists_of_map_eq_ok hload
    exact validate_of_override (Config.validate_of_loadOrDefault hfound) h

end Command

/-- The configurations that a client can come by: from a text, from a file, from the files that are looked for, or
for a command line. -/
inductive Config.Loaded : Config → Prop where
  | text {text c} (h : Config.parse text = .ok c) : Loaded c
  | file {files path c} (h : Config.load files path = .ok c) : Loaded c
  | found {files given candidates f} (h : Config.loadFound files given candidates = .ok f) : Loaded f.config
  | foundOrDefault {files given candidates f} (h : Config.loadOrDefault files given candidates = .ok f) :
    Loaded f.config
  | commandLine {files configPath explicit baseUrl c}
    (h : Command.loadConfig files configPath explicit baseUrl = .ok c) : Loaded c

theorem Config.Loaded.validate {c : Config} (h : c.Loaded) : c.validate = .ok () := by
  cases h with
  | text h => exact validate_of_parseOr h
  | file h => exact validate_of_load h
  | found h => exact validate_of_loadFound h
  | foundOrDefault h => exact validate_of_loadOrDefault h
  | commandLine h => exact Command.validate_of_loadConfig h

/-! ## from a valid endpoint to a gateway -/

namespace Config

/-- What the validation of an endpoint tells of its URL and its route. -/
theorem Endpoint.exists_of_validate {e : Endpoint} (h : e.validate = .ok ()) :
    ∃ u, Url.parse e.baseUrl = .ok u ∧ Url.isPageScheme u.scheme ∧ Url.OpensTail e.apiPrefix.toList := by
  unfold validate at h
  split at h
  · cases h
  next u hu =>
    refine ⟨u, hu, ?_⟩
    split at h
    · cases h
    next hscheme =>
      split at h
      · cases h
      next hroute =>
        refine ⟨?_, ?_⟩
        · simpa [supportsScheme, Url.isPageScheme, or_iff_not_imp_left] using hscheme
        · intro c hc
          have hnonempty : e.apiPrefix.isEmpty = false := by
            rw [← Bool.not_eq_true, String.isEmpty_iff]
            rintro hempty
            rw [hempty] at hc
            cases hc
          have hslash : e.apiPrefix.startsWith "/" := by simpa [hnonempty] using hroute
          obtain ⟨rest, hrest⟩ := String.startsWith_string_iff.1 hslash
          rw [← hrest] at hc
          exact .inl (Option.some.inj hc).symm

end Config

/-- A header at fault is not an ill-formed URL. -/
theorem Http.Headers.insertPairs_ne_invalidUrl (pairs : List (String × String)) (hs : Headers) (cause : Url.Error) :
    insertPairs pairs hs ≠ .error (.invalidUrl cause) := by
  induction pairs generalizing hs with
  | nil => simp [insertPairs]
  | cons p rest ih =>
    obtain ⟨name, value⟩ := p
    unfold insertPairs
    split
    · exact ih _
    next error hcheck =>
      unfold checkHeader at hcheck
      split at hcheck
      · obtain rfl := Except.error.inj hcheck
        simp
      split at hcheck
      · obtain rfl := Except.error.inj hcheck
        simp
      · cases hcheck

namespace Gateway

theorem dropSlashes_toList (text : String) :
    (dropSlashes text).toList = Text.dropTrailing (· = '/') text.toList := by
  simp [dropSlashes]

/-- An authority keeps the slashes in front of it. -/
theorem dropTrailing_located {scheme auth tail : List Char} (hne : auth ≠ []) (hinner : ∀ c ∈ auth, Url.isInner c) :
    Text.dropTrailing (· = '/') (scheme ++ ':' :: '/' :: '/' :: (auth ++ tail)) =
      scheme ++ ':' :: '/' :: '/' :: (auth ++ Text.dropTrailing (· = '/') tail) := by
  have hlast : ∀ c ∈ ((scheme ++ [':', '/', '/']) ++ auth).getLast?, ¬ (c = '/' : Bool) := by
    intro c hc hmark
    rw [List.getLast?_append_of_ne_nil _ hne] at hc
    have hslash := (Url.ends_of_isInner (hinner c (List.mem_of_getLast? hc))).1
    rw [of_decide_eq_true hmark] at hslash
    cases hslash
  have hfront : ∀ ys, scheme ++ ':' :: '/' :: '/' :: (auth ++ ys) = (scheme ++ [':', '/', '/']) ++ auth ++ ys := by
    simp
  rw [hfront, hfront, Text.dropTrailing_append (by simp) hlast]

/-- Without the slashes at its end, a text may follow an authority if it did before, with another such text
behind it. -/
theorem opensTail_append {tail tail' : List Char} (h : Url.OpensTail tail) (h' : Url.OpensTail tail') :
    Url.OpensTail (Text.dropTrailing (· = '/') tail ++ Text.dropTrailing (· = '/') tail') := by
  have htail := h.of_isPrefix (Text.dropTrailing_isPrefix (· = '/') tail)
  have htail' := h'.of_isPrefix (Text.dropTrailing_isPrefix (· = '/') tail')
  cases hdrop : Text.dropTrailing (· = '/') tail with
  | nil => exact htail'
  | cons c rest =>
    rw [hdrop] at htail
    exact htail

/-- The root of all routes. -/
def rootText (u : Url) (apiPrefix : String) : String := dropSlashes u.text ++ dropSlashes apiPrefix

/-- The root of all routes keeps the authority of the URL, and loses the slashes at the end of what follows it. -/
theorem rootText_toList {u : Url} {auth tail : List Char}
    (hchars : u.chars = u.scheme ++ ':' :: '/' :: '/' :: (auth ++ tail)) (hne : auth ≠ [])
    (hinner : ∀ c ∈ auth, Url.isInner c) (apiPrefix : String) :
    (rootText u apiPrefix).toList = u.scheme ++ ':' :: '/' :: '/' :: (auth ++
      (Text.dropTrailing (· = '/') tail ++ Text.dropTrailing (· = '/') apiPrefix.toList)) := by
  have hurl : (dropSlashes u.text).toList =
      u.scheme ++ ':' :: '/' :: '/' :: (auth ++ Text.dropTrailing (· = '/') tail) := by
    rw [dropSlashes_toList, Url.text, String.toList_ofList, hchars, dropTrailing_located hne hinner]
  simp [rootText, hurl, dropSlashes_toList]

/-- **The root of all routes leads to the place that the URL of the endpoint names**, whatever the route below
it. -/
theorem sameAuthority_root {text apiPrefix : String} {u : Url} (h : Url.parse text = .ok u)
    (hscheme : Url.isPageScheme u.scheme) (hroute : Url.OpensTail apiPrefix.toList)
    (hagain : Url.parse u.text = .ok u) : ∃ v, Url.parse (rootText u apiPrefix) = .ok v ∧ u.SameAuthority v := by
  have hagain : Url.parseChars u.chars = .ok u := by simpa [Url.parse, Url.text] using hagain
  obtain ⟨auth, tail, hchars, hne, hinner, htail, hother⟩ := Url.sameAuthority_of_parseChars h hscheme hagain
  obtain ⟨v, hv, hsame⟩ := hother _ (opensTail_append htail hroute)
  exact ⟨v, by rw [Url.parse, rootText_toList hchars hne hinner, hv], hsame⟩

/-- Once both of its URLs are read, the headers decide whether an endpoint has a gateway. -/
theorem ofEndpoint_eq {e : Config.Endpoint} {u v : Url} (hu : Url.parse e.baseUrl = .ok u)
    (hv : Url.parse (rootText u e.apiPrefix) = .ok v) :
    ofEndpoint e = (Http.Headers.ofPairs e.headers).map fun hs => ⟨rootText u e.apiPrefix, hs⟩ := by
  have hbase : parseUrl e.baseUrl = .ok u := by simp [parseUrl, hu, Except.mapError]
  have hroot : parseUrl (dropSlashes u.text ++ dropSlashes e.apiPrefix) = .ok v := by
    rw [parseUrl, ← rootText, hv]
    rfl
  unfold ofEndpoint
  simp only [hbase, hroot, bind, Except.bind]
  cases Http.Headers.ofPairs e.headers <;> rfl

/-- **A valid endpoint has a gateway**, unless a header is at fault, and its routes lead to the place that its URL
names. -/
theorem ofEndpoint_of_validate {e : Config.Endpoint} (h : e.validate = .ok ())
    (hagain : ∀ u, Url.parse e.baseUrl = .ok u → Url.parse u.text = .ok u) :
    ∃ u root v, Url.parse e.baseUrl = .ok u ∧ Url.parse root = .ok v ∧ u.SameAuthority v ∧
      ofEndpoint e = (Http.Headers.ofPairs e.headers).map fun hs => ⟨root, hs⟩ := by
  obtain ⟨u, hu, hscheme, hroute⟩ := Config.Endpoint.exists_of_validate h
  obtain ⟨v, hv, hsame⟩ := sameAuthority_root hu hscheme hroute (hagain u hu)
  exact ⟨u, rootText u e.apiPrefix, v, hu, hv, hsame, ofEndpoint_eq hu hv⟩

end Gateway

/-! ## configurations of a client -/

/-- **Validation is enough, and nothing gets around it**: every configuration that a client can come by is valid;
and for a valid one there is no complaint about a URL, and the routes of the gateway lead to the place that the URL
of the endpoint names, with its credentials. It is assumed that the text of the URL is read as the URL again. -/
theorem loaded_configs_usable (c : Config) :
    (c.Loaded → c.validate = .ok ()) ∧
      (c.validate = .ok () → (∀ u, Url.parse c.endpoint.baseUrl = .ok u → Url.parse u.text = .ok u) →
        (∀ cause, Gateway.ofEndpoint c.endpoint ≠ .error (.invalidUrl cause)) ∧
          ∀ g, Gateway.ofEndpoint c.endpoint = .ok g →
            ∃ u v, Url.parse c.endpoint.baseUrl = .ok u ∧ Url.parse g.apiRoot = .ok v ∧ u.SameAuthority v) := by
  refine ⟨Config.Loaded.validate, fun hvalid hagain => ?_⟩
  obtain ⟨⟨⟩, hendpoint, -⟩ := exists_of_bind_eq_ok hvalid
  obtain ⟨u, root, v, hu, hv, hsame, hgateway⟩ := Gateway.ofEndpoint_of_validate hendpoint hagain
  rw [hgateway]
  refine ⟨fun cause herror => ?_, fun g hg => ?_⟩
  · cases hheaders : Http.Headers.ofPairs c.endpoint.headers with
    | error e =>
      rw [hheaders] at herror
      obtain rfl := Except.error.inj herror
      exact Http.Headers.insertPairs_ne_invalidUrl _ _ cause hheaders
    | ok hs =>
      rw [hheaders] at herror
      cases herror
  · obtain ⟨hs, -, rfl⟩ := exists_of_map_eq_ok hg
    exact ⟨u, v, hu, hv, hsame⟩

/-- The one file there is sets the route, and the command line sets the URL, with credentials and a query. -/
theorem loaded_configs_usable_credentials :
    let files : FileView :=
      ⟨fun path => path = "rpg.toml", fun _ => .ok (Text.utf8 "[endpoint]\napi_prefix = \"/api//\"\n")⟩
    let c : Config := ⟨{ baseUrl := "http://user:pw@example.org:81/x/?a=/", apiPrefix := "/api//" }, {}, {}⟩
    let g : Gateway := ⟨"http://user:pw@example.org:81/x/?a=/api", []⟩
    Command.loadConfig files none none (some "http://user:pw@example.org:81/x/?a=/") = .ok c ∧
      c.validate = .ok () ∧ Gateway.ofEndpoint c.endpoint = .ok g ∧
      ∃ u v, Url.parse c.endpoint.baseUrl = .ok u ∧ Url.parse g.apiRoot = .ok v ∧ u.SameAuthority v := by
  intro files c g
  have hloaded : Command.loadConfig files none none (some "http://user:pw@example.org:81/x/?a=/") = .ok c := by
    decide +kernel
  have hgateway : Gateway.ofEndpoint { baseUrl := "http://user:pw@example.org:81/x/?a=/", apiPrefix := "/api//" } =
      .ok ⟨"http://user:pw@example.org:81/x/?a=/api", []⟩ := by
    with_unfolding_all rfl
  have hurl : Url.parse "http://user:pw@example.org:81/x/?a=/" = .ok ⟨"http".toList, "user".toList, "pw".toList,
      some (.name "example.org".toList), some 81, .segments ["x".toList, []], some "a=/".toList, none⟩ := by
    with_unfolding_all rfl
  have hvalid := (loaded_configs_usable c).1 (.commandLine hloaded)
  refine ⟨hloaded, hvalid, hgateway, ((loaded_configs_usable c).2 hvalid fun u hu => ?_).2 g hgateway⟩
  obtain rfl := Except.ok.inj (hurl.symm.trans hu)
  with_unfolding_all rfl

end ProcessGraph
