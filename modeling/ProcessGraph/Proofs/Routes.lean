import ProcessGraph.Proofs.Encodings
import ProcessGraph.Proofs.Validation

/-!
# Where routes lead

* `Url.IsName`: a text that stands in a path as it is, as the names of kinds and functions do.
* `Url.exists_pathAfterAuthority`: a path that ends in two names keeps them, whatever stands before.
* `Url.unmarked_path`: a path that was read has none of the marks of a query or a fragment.
* `Gateway.Documented`: the URL of a function of an entity, as it is documented.
* `Gateway.Rooted.documented_iff`: behind a root with a query or a fragment all routes have one path; behind any
  other root they are the documented ones.
* `Gateway.routes_documented_iff`: which valid endpoints have the documented routes.
-/

namespace ProcessGraph

/-! ## stretches -/

theorem Text.splitWhere_ne_nil {α : Type} (p : α → Bool) (xs : List α) : splitWhere p xs ≠ [] := by
  cases xs with
  | nil => simp [splitWhere]
  | cons x xs =>
    rw [splitWhere]
    split
    · simp
    · split <;> simp

theorem Text.splitWhere_append {α : Type} {p : α → Bool} {a : α} (ha : p a) (xs ys : List α) :
    splitWhere p (xs ++ a :: ys) = splitWhere p xs ++ splitWhere p ys := by
  induction xs with
  | nil => simp [splitWhere, ha]
  | cons x xs ih =>
    rw [List.cons_append, splitWhere, splitWhere, ih]
    split
    · simp
    · cases h : splitWhere p xs with
      | nil => exact absurd h (splitWhere_ne_nil p xs)
      | cons part rest => simp

/-- On both sides of an ampersand there are pairs. -/
theorem Text.FormEncoded.pairs_append (cs ds : List Char) :
    pairs (Utf8.encode (cs ++ '&' :: ds)) = pairs (Utf8.encode cs) ++ pairs (Utf8.encode ds) := by
  have hand : Utf8.encodeChar '&' = [0x26] := rfl
  unfold pairs
  rw [Utf8.encode_append, Utf8.encode_cons, hand, List.singleton_append, splitWhere_append (by decide),
    List.filter_append, List.map_append]

namespace Url

/-! ## names in a path -/

/-- The text stands in a path as it is, and it ends nothing. -/
structure IsName (s : List Char) : Prop where
  dropBreaks_eq : dropBreaks s = s
  encode_eq : Text.Percent.encode inPathSet s = s
  singleDot : isSingleDot s = false
  doubleDot : isDoubleDot s = false
  ends : ∀ c ∈ s, isSlash true c = false ∧ c ≠ '?' ∧ c ≠ '#' ∧ 32 < c.toNat
  ne_nil : s ≠ []

/-- A name becomes a segment. -/
theorem addSegment_of_isName {s : List Char} (h : IsName s) (last : Bool) (trail : Trail) :
    addSegment false last trail s = { trail with segments := trail.segments ++ [s] } := by
  unfold addSegment
  simp only [Bool.false_and, Bool.false_eq_true, if_false, h.dropBreaks_eq, h.singleDot, h.doubleDot, h.encode_eq]
  split <;> rfl

theorem addSegments_concat (file : Bool) (trail : Trail) (front : List (List Char)) (s : List Char) :
    addSegments file trail (front ++ [s]) = addSegment file true (front.foldl (addSegment file false) trail) s := by
  induction front generalizing trail with
  | nil => rfl
  | cons segment front ih =>
    rw [List.cons_append, List.foldl_cons, ← ih]
    cases front <;> rfl

/-- **A path that ends in two names keeps them**, whatever stands before. -/
theorem exists_pathAfterAuthority {front a b : List Char} (hfront : ∀ c ∈ front.head?, c = '/') (ha : IsName a)
    (hb : IsName b) :
    ∃ done, pathAfterAuthority true (front ++ '/' :: (a ++ '/' :: b)) = .segments (done ++ [a, b]) := by
  have hmark : isSlash true '/' := by decide
  have hsplit : ∀ s, IsName s → Text.splitWhere (isSlash true) s = [s] := fun s hs =>
    Text.FormEncoded.splitWhere_of_forall fun c hc => (hs.ends c hc).1
  have hnames : Text.splitWhere (isSlash true) (a ++ '/' :: b) = [a, b] := by
    rw [Text.splitWhere_append hmark, hsplit a ha, hsplit b hb]
    rfl
  obtain ⟨segments, hsegments⟩ : ∃ segments, Text.splitWhere (isSlash true)
      (dropSlash true (front ++ '/' :: (a ++ '/' :: b))) = segments ++ [a] ++ [b] := by
    cases front with
    | nil => exact ⟨[], hnames⟩
    | cons c rest =>
      obtain rfl := hfront c rfl
      refine ⟨Text.splitWhere (isSlash true) rest, ?_⟩
      have hdrop : dropSlash true ('/' :: rest ++ '/' :: (a ++ '/' :: b)) = rest ++ '/' :: (a ++ '/' :: b) := rfl
      rw [hdrop, Text.splitWhere_append hmark, hnames, List.append_assoc]
      rfl
  rw [pathAfterAuthority, pathSegments, carryOut, hsegments, addSegments_concat, List.foldl_concat,
    addSegment_of_isName ha, addSegment_of_isName hb]
  simp

/-! ## query and fragment -/

/-- What stands before query and fragment. -/
theorem splitTail_fst (cs : List Char) : (splitTail cs).1 = cs.takeWhile fun c => c ≠ '?' ∧ c ≠ '#' := by
  simp only [splitTail, List.span_eq_takeWhile_dropWhile, List.takeWhile_takeWhile]
  simp

/-- A text without the marks of a query and a fragment is all path. -/
theorem splitTail_of_forall {cs : List Char} (h : ∀ c ∈ cs, c ≠ '?' ∧ c ≠ '#') : splitTail cs = (cs, none, none) := by
  have happend := splitTail_append h []
  rw [List.append_nil] at happend
  rw [happend]
  simp [splitTail]

/-- Behind one of these marks nothing belongs to the path. -/
theorem splitTail_append_fst {cs : List Char} (h : ∃ c ∈ cs, c = '?' ∨ c = '#') (tail : List Char) :
    (splitTail (cs ++ tail)).1 = (splitTail cs).1 := by
  obtain ⟨c, hc, hmark⟩ := h
  rw [splitTail_fst, splitTail_fst, List.takeWhile_append, if_neg]
  intro hlength
  have hall := List.takeWhile_eq_self_iff.1 ((List.takeWhile_prefix _).eq_of_length hlength) c hc
  rcases hmark with rfl | rfl <;> simp at hall

/-- A text that is written without blanks at its end is not trimmed. -/
theorem dropTrailing_of_isName {front name : List Char} (h : IsName name) :
    Text.dropTrailing (fun c => decide (c.toNat ≤ 32)) (front ++ name) = front ++ name := by
  have hlast : ∀ c ∈ (front ++ name).getLast?, ¬ (decide (c.toNat ≤ 32) : Bool) := by
    intro c hc
    rw [List.getLast?_append_of_ne_nil _ h.ne_nil] at hc
    have hlarge := (h.ends c (List.mem_of_getLast? hc)).2.2.2
    simpa using hlarge
  have hne : front ++ name ≠ [] := by simp [h.ne_nil]
  calc Text.dropTrailing (fun c => decide (c.toNat ≤ 32)) (front ++ name)
      = Text.dropTrailing (fun c => decide (c.toNat ≤ 32)) (front ++ name ++ []) := by rw [List.append_nil]
    _ = front ++ name ++ [] := Text.dropTrailing_append hne hlast
    _ = front ++ name := List.append_nil _

/-! ## paths that were read -/

/-- The text has neither the mark of a query nor that of a fragment. -/
def Unmarked (cs : List Char) : Prop := ∀ c ∈ cs, c ≠ '?' ∧ c ≠ '#'

theorem unmarked_encode (cs : List Char) : Unmarked (Text.Percent.encode inPathSet cs) := by
  refine Text.Percent.forall_mem_encode (by decide) (by decide) fun c _ hkept => ?_
  constructor
  · rintro rfl
    exact absurd hkept (by decide)
  · rintro rfl
    exact absurd hkept (by decide)

theorem unmarked_addSegment {last : Bool} {trail : Trail} {raw : List Char}
    (h : ∀ s ∈ trail.segments, Unmarked s) : ∀ s ∈ (addSegment false last trail raw).segments, Unmarked s := by
  have hempty : Unmarked [] := by simp [Unmarked]
  have hshorten : ∀ s ∈ shorten trail.segments, Unmarked s := by
    intro s hs
    unfold shorten at hs
    split at hs
    · exact h s hs
    · exact h s (List.dropLast_subset _ hs)
  have hconcat : ∀ (done : List (List Char)) s, (∀ t ∈ done, Unmarked t) → Unmarked s →
      ∀ t ∈ done ++ [s], Unmarked t := by
    intro done s hdone hs t ht
    rcases List.mem_append.1 ht with ht | ht
    · exact hdone t ht
    · exact List.mem_singleton.1 ht ▸ hs
  unfold addSegment
  simp only [Bool.false_and, Bool.false_eq_true, if_false]
  split
  · cases last
    · exact hshorten
    · exact hconcat _ _ hshorten hempty
  split
  · cases last
    · exact h
    · exact hconcat _ _ h hempty
  split <;> exact hconcat _ _ h (unmarked_encode _)

theorem unmarked_addSegments {trail : Trail} {raws : List (List Char)} (h : ∀ s ∈ trail.segments, Unmarked s) :
    ∀ s ∈ (addSegments false trail raws).segments, Unmarked s := by
  induction raws generalizing trail with
  | nil => exact h
  | cons raw raws ih =>
    cases raws with
    | nil => exact unmarked_addSegment h
    | cons next rest => exact ih (unmarked_addSegment h)

/-- The path of the URL of a web page is written without the marks of query and fragment. -/
theorem unmarked_path {cs : List Char} {u : Url} (h : parseChars cs = .ok u) (hscheme : isPageScheme u.scheme) :
    Unmarked u.path.chars := by
  obtain ⟨query, fragment, rest, h⟩ := exists_parseAfterSlashes h hscheme
  obtain ⟨⟨a, left⟩, -, h⟩ := exists_of_bind_eq_ok h
  have hpath : ∃ cs, u.path = .segments (pathSegments true false cs) := by
    rw [← Except.ok.inj h, (isSpecialScheme_of_isPageScheme hscheme).1]
    simp [pathAfterAuthority]
  obtain ⟨cs, hpath⟩ := hpath
  have hsegments : ∀ s ∈ pathSegments true false cs, Unmarked s := unmarked_addSegments (by simp)
  intro c hc
  rw [hpath, Path.chars] at hc
  obtain ⟨s, hs, hc⟩ := List.mem_flatMap.1 hc
  rcases List.mem_cons.1 hc with rfl | hc
  · decide
  · exact hsegments s hs c hc

end Url

/-! ## routes -/

open Url (IsName Unmarked OpensTail)

theorem Kind.isName_className (kind : Kind) : IsName kind.className.toList := by
  cases kind <;>
    exact ⟨by decide, by decide, by decide, by decide, by simp [Kind.className, Url.isSlash], by decide⟩

theorem Function.isName_name (function : Function) : IsName function.name.toList := by
  cases function <;>
    exact ⟨by decide, by decide, by decide, by decide, by simp [Function.name, Url.isSlash], by decide⟩

namespace Gateway

/-- What a route adds to the root of all routes. -/
def ending (kind : Kind) (function : Function) : List Char :=
  '/' :: (kind.className.toList ++ '/' :: function.name.toList)

/-- The URL of a function of an entity, as it is documented: the path ends in the names of the kind and of the
function, and the query holds the identifier, if one is given, and nothing else. -/
structure Documented (kind : Kind) (function : Function) (id : Option Identifier) (url : Url) : Prop where
  path : ("/" ++ kind.className ++ "/" ++ function.name).toList <:+ url.path.chars
  query : url.queryPairs = (id.map fun id => ("identifier".toList, id.text.toList)).toList

/-- The root of all routes is a web address, with some text behind its authority. -/
structure Rooted (g : Gateway) (scheme auth tail : List Char) (a : Url.Authority) : Prop where
  web : Url.isPageScheme scheme
  text : g.apiRoot.toList = scheme ++ ':' :: '/' :: '/' :: (auth ++ tail)
  ne_nil : auth ≠ []
  inner : ∀ c ∈ auth, Url.isInner c
  opens : OpensTail tail
  authority : Url.authority? scheme auth = .ok a

theorem ending_eq (kind : Kind) (function : Function) :
    ("/" ++ kind.className ++ "/" ++ function.name).toList = ending kind function := by
  simp [ending]

theorem unmarked_ending (kind : Kind) (function : Function) : Unmarked (ending kind function) := by
  intro c hc
  rcases List.mem_cons.1 hc with rfl | hc
  · decide
  rcases List.mem_append.1 hc with hc | hc
  · have hends := kind.isName_className.ends c hc
    exact ⟨hends.2.1, hends.2.2.1⟩
  rcases List.mem_cons.1 hc with rfl | hc
  · decide
  · have hends := function.isName_name.ends c hc
    exact ⟨hends.2.1, hends.2.2.1⟩

variable {g : Gateway} {scheme auth tail : List Char} {a : Url.Authority}

/-- The text of a route is read as a web address. -/
theorem Rooted.parse (h : g.Rooted scheme auth tail a) (kind : Kind) (function : Function) :
    Url.parse (g.routeText kind function) = .ok (Url.located scheme (tail ++ ending kind function) a) := by
  have htext : (g.routeText kind function).toList =
      scheme ++ ':' :: '/' :: '/' :: (auth ++ (tail ++ ending kind function)) := by
    simp [routeText, h.text, ending]
  have hopens : OpensTail (tail ++ ending kind function) := by
    intro c hc
    cases tail with
    | nil =>
      obtain rfl := Option.some.inj hc
      exact .inl rfl
    | cons d rest => exact h.opens c hc
  rw [Url.parse, htext, Url.parseChars_located h.web h.ne_nil h.inner hopens, h.authority]
  rfl

/-- The URL of a route without its identifier, and the pair that is added to it. -/
theorem Rooted.route (h : g.Rooted scheme auth tail a) (kind : Kind) (function : Function) (id : Option Identifier) :
    g.route kind function id = .ok (match id with
      | none => Url.located scheme (tail ++ ending kind function) a
      | some id => (Url.located scheme (tail ++ ending kind function) a).appendPair identifierName.toList
          id.text.toList) := by
  unfold Gateway.route
  rw [h.parse]
  cases id <;> rfl

theorem dropTrailing_ending (tail : List Char) (kind : Kind) (function : Function) :
    Text.dropTrailing (fun c => decide (c.toNat ≤ 32)) (tail ++ ending kind function) =
      tail ++ ending kind function := by
  have hname : tail ++ ending kind function =
      (tail ++ '/' :: (kind.className.toList ++ ['/'])) ++ function.name.toList := by
    simp [ending]
  rw [hname, Url.dropTrailing_of_isName function.isName_name]

/-- Behind a root without query and fragment, the path of a route ends in its names, and it has no query. -/
theorem Rooted.located_of_unmarked (h : g.Rooted scheme auth tail a) (hunmarked : Unmarked tail) (kind : Kind)
    (function : Function) :
    (∃ done, (Url.located scheme (tail ++ ending kind function) a).path =
        .segments (done ++ [kind.className.toList, function.name.toList])) ∧
      (Url.located scheme (tail ++ ending kind function) a).query = none := by
  have hsplit : Url.splitTail (tail ++ ending kind function) = (tail ++ ending kind function, none, none) := by
    refine Url.splitTail_of_forall fun c hc => ?_
    rcases List.mem_append.1 hc with hc | hc
    · exact hunmarked c hc
    · exact unmarked_ending kind function c hc
  have hhead : ∀ c ∈ (Url.dropBreaks tail).head?, c = '/' := by
    have hhead := Url.head_splitTail h.opens
    rwa [Url.splitTail_of_forall hunmarked] at hhead
  have hbreaks : Url.dropBreaks (tail ++ ending kind function) = Url.dropBreaks tail ++ ending kind function := by
    rw [Url.dropBreaks_append, ending, Url.dropBreaks_cons_slash, Url.dropBreaks_append, Url.dropBreaks_cons_slash,
      kind.isName_className.dropBreaks_eq, function.isName_name.dropBreaks_eq]
  obtain ⟨done, hdone⟩ :=
    Url.exists_pathAfterAuthority hhead kind.isName_className function.isName_name
  unfold Url.located
  simp only [dropTrailing_ending, hsplit, hbreaks]
  exact ⟨⟨done, hdone⟩, rfl⟩

/-- Behind a root with a query or a fragment, all routes have one path. -/
theorem located_of_marked (hmarked : ∃ c ∈ tail, c = '?' ∨ c = '#') (kind : Kind) (function : Function) :
    (Url.located scheme (tail ++ ending kind function) a).path =
      Url.pathAfterAuthority true (Url.dropBreaks (Url.splitTail tail).1) := by
  unfold Url.located
  simp only [dropTrailing_ending, Url.splitTail_append_fst hmarked]

/-- A pair that is appended to a query comes after those that it held. -/
theorem queryPairs_appendPair (url : Url) (name value : List Char) :
    (url.appendPair name value).queryPairs = url.queryPairs ++ [(name, value)] := by
  have hpair := Text.FormEncoded.pairs_pair name value
  unfold Url.appendPair Url.queryPairs
  match url.query with
  | none | some [] => exact hpair
  | some (c :: q) => exact (Text.FormEncoded.pairs_append (c :: q) _).trans (congrArg _ hpair)

/-- **The routes behind a root are the documented ones** exactly if the root has neither query nor fragment. -/
theorem Rooted.documented_iff (h : g.Rooted scheme auth tail a) :
    (∀ kind function id, ∃ url, g.route kind function id = .ok url ∧ Documented kind function id url) ↔
      Unmarked tail := by
  constructor
  · intro hall
    by_contra hmarked
    have hmarked : ∃ c ∈ tail, c = '?' ∨ c = '#' := by
      simp only [Unmarked, not_forall] at hmarked
      obtain ⟨c, hc, hmark⟩ := hmarked
      exact ⟨c, hc, by tauto⟩
    -- two routes with names of one length cannot share their path
    obtain ⟨listUrl, hlist, hlistDocumented⟩ := hall .system .list none
    obtain ⟨callUrl, hcall, hcallDocumented⟩ := hall .system .call none
    obtain rfl := Except.ok.inj ((h.route _ _ _).symm.trans hlist)
    obtain rfl := Except.ok.inj ((h.route _ _ _).symm.trans hcall)
    have hlistPath := hlistDocumented.path
    have hcallPath := hcallDocumented.path
    simp only [located_of_marked hmarked] at hlistPath hcallPath
    have hsame := (List.suffix_of_suffix_length_le hlistPath hcallPath (by decide)).eq_of_length (by decide)
    exact absurd hsame (by decide)
  · intro hunmarked kind function id
    obtain ⟨⟨done, hpath⟩, hquery⟩ := h.located_of_unmarked hunmarked kind function
    refine ⟨_, h.route kind function id, ?_, ?_⟩
    · have hsuffix : ending kind function <:+
          (Url.Path.segments (done ++ [kind.className.toList, function.name.toList])).chars :=
        ⟨done.flatMap fun p => '/' :: p, by simp [Url.Path.chars, ending]⟩
      rw [ending_eq]
      cases id <;> exact hpath ▸ hsuffix
    · cases id with
      | none =>
        simp only [Url.queryPairs, hquery]
        rfl
      | some id =>
        refine (queryPairs_appendPair _ _ _).trans ?_
        rw [Url.queryPairs, hquery]
        rfl

end Gateway

/-! ## routes of endpoints -/

theorem Text.mem_dropTrailing_of_not {α : Type} {p : α → Bool} {x : α} {xs : List α} (hx : x ∈ xs) (h : ¬ p x) :
    x ∈ dropTrailing p xs := by
  have hreverse : x ∈ xs.reverse.takeWhile p ++ xs.reverse.dropWhile p := by
    rw [List.takeWhile_append_dropWhile]
    exact List.mem_reverse.2 hx
  rcases List.mem_append.1 hreverse with hmem | hmem
  · exact absurd (List.mem_takeWhile_imp hmem) h
  · exact List.mem_reverse.2 hmem

namespace Url

/-- The slashes at the end of a text are no marks. -/
theorem unmarked_dropTrailing_iff {cs : List Char} : Unmarked (Text.dropTrailing (· = '/') cs) ↔ Unmarked cs := by
  constructor
  · intro h c hc
    by_cases hslash : c = '/'
    · subst hslash
      decide
    · exact h c (Text.mem_dropTrailing_of_not hc (by simpa using hslash))
  · intro h c hc
    exact h c ((Text.dropTrailing_isPrefix _ cs).subset hc)

/-- What follows the authority of a URL has a mark where there is a query or a fragment. -/
theorem unmarked_tailChars_iff {u : Url} (h : Unmarked u.path.chars) :
    Unmarked u.tailChars ↔ u.query = none ∧ u.fragment = none := by
  unfold Unmarked at h ⊢
  rw [tailChars, List.forall_mem_append, List.forall_mem_append, and_iff_right h]
  refine and_congr ?_ ?_
  · cases hquery : u.query <;> simp [queryChars, hquery]
  · cases hfragment : u.fragment <;> simp [fragmentChars, hfragment]

end Url

namespace Gateway

theorem parse_of_parseUrl {text : String} {u : Url} (h : parseUrl text = .ok u) : Url.parse text = .ok u := by
  unfold parseUrl at h
  cases hparse : Url.parse text with
  | error e =>
    rw [hparse] at h
    cases h
  | ok v =>
    rw [hparse] at h
    rw [Except.ok.inj h]

/-- The routes of a valid endpoint are rooted behind the authority of its URL. -/
theorem exists_rooted {e : Config.Endpoint} {g : Gateway} (hvalid : e.validate = .ok ()) (hg : ofEndpoint e = .ok g) :
    ∃ u auth a, Url.parse e.baseUrl = .ok u ∧ Url.isPageScheme u.scheme ∧
      g.Rooted u.scheme auth
        (Text.dropTrailing (· = '/') u.tailChars ++ Text.dropTrailing (· = '/') e.apiPrefix.toList) a := by
  obtain ⟨u, hu, hscheme, hroute⟩ := Config.Endpoint.exists_of_validate hvalid
  obtain ⟨base, hbase, hg⟩ := exists_of_bind_eq_ok hg
  obtain rfl := Except.ok.inj (hu.symm.trans (parse_of_parseUrl hbase))
  obtain ⟨v, hv, hg⟩ := exists_of_bind_eq_ok hg
  obtain ⟨headers, -, hg⟩ := exists_of_bind_eq_ok hg
  obtain rfl := Except.ok.inj hg
  obtain ⟨host, hspelled⟩ := Url.spelled_of_parseChars hu hscheme
  obtain ⟨hne, hinner⟩ := hspelled.inner
  have hopens := opensTail_append hspelled.opensTail hroute
  have htext := rootText_toList (Url.chars_eq hspelled.host_eq) hne hinner e.apiPrefix
  have hroot := parse_of_parseUrl hv
  rw [← rootText, Url.parse, htext, Url.parseChars_located hscheme hne hinner hopens] at hroot
  obtain ⟨a, ha, -⟩ := exists_of_map_eq_ok hroot
  exact ⟨u, _, a, hu, hscheme, hscheme, htext, hne, hinner, hopens, ha⟩

/-- **Where the routes of an endpoint lead.** Every route of a valid endpoint is composed. All of them are the
documented ones exactly if the URL of the endpoint has neither query nor fragment, and the route below it has none
of their marks. -/
theorem routes_documented_iff {e : Config.Endpoint} {g : Gateway} (hvalid : e.validate = .ok ())
    (hg : ofEndpoint e = .ok g) :
    (∀ kind function id, ∃ url, g.route kind function id = .ok url) ∧
      ((∀ kind function id, ∃ url, g.route kind function id = .ok url ∧ Documented kind function id url) ↔
        ∃ u, Url.parse e.baseUrl = .ok u ∧ u.query = none ∧ u.fragment = none ∧ '?' ∉ e.apiPrefix.toList ∧
          '#' ∉ e.apiPrefix.toList) := by
  obtain ⟨u, auth, a, hu, hscheme, hrooted⟩ := exists_rooted hvalid hg
  refine ⟨fun kind function id => ⟨_, hrooted.route kind function id⟩, ?_⟩
  have hpath := Url.unmarked_path hu hscheme
  have hmarks : Unmarked e.apiPrefix.toList ↔ '?' ∉ e.apiPrefix.toList ∧ '#' ∉ e.apiPrefix.toList := by
    constructor
    · intro h
      exact ⟨fun hc => (h _ hc).1 rfl, fun hc => (h _ hc).2 rfl⟩
    · rintro ⟨hquestion, hnumber⟩ c hc
      exact ⟨fun h => hquestion (h ▸ hc), fun h => hnumber (h ▸ hc)⟩
  have hunmarked : Unmarked
      (Text.dropTrailing (· = '/') u.tailChars ++ Text.dropTrailing (· = '/') e.apiPrefix.toList) ↔
      (u.query = none ∧ u.fragment = none) ∧ '?' ∉ e.apiPrefix.toList ∧ '#' ∉ e.apiPrefix.toList := by
    rw [← hmarks, ← Url.unmarked_tailChars_iff hpath]
    exact List.forall_mem_append.trans (and_congr Url.unmarked_dropTrailing_iff Url.unmarked_dropTrailing_iff)
  rw [hrooted.documented_iff, hunmarked]
  constructor
  · rintro ⟨⟨hquery, hfragment⟩, hprefix⟩
    exact ⟨u, hu, hquery, hfragment, hprefix⟩
  · rintro ⟨v, hv, hquery, hfragment, hprefix⟩
    obtain rfl := Except.ok.inj (hu.symm.trans hv)
    exact ⟨⟨hquery, hfragment⟩, hprefix⟩

/-- The routes below a path of the server are the documented ones. -/
theorem routes_documented_below :
    let e : Config.Endpoint := { baseUrl := "http://localhost:8080/rpg/", apiPrefix := "/api" }
    let g : Gateway := ⟨"http://localhost:8080/rpg/api", []⟩
    e.validate = .ok () ∧ ofEndpoint e = .ok g ∧
      ∀ kind function id, ∃ url, g.route kind function id = .ok url ∧ Documented kind function id url := by
  intro e g
  have hvalid : e.validate = .ok () := by decide +kernel
  have hg : ofEndpoint { baseUrl := "http://localhost:8080/rpg/", apiPrefix := "/api" } =
      .ok ⟨"http://localhost:8080/rpg/api", []⟩ := by
    with_unfolding_all rfl
  refine ⟨hvalid, hg, (routes_documented_iff hvalid hg).2.2 ?_⟩
  refine ⟨⟨"http".toList, [], [], some (.name "localhost".toList), some 8080, .segments ["rpg".toList, []], none, none⟩,
    ?_, rfl, rfl, by decide, by decide⟩
  have hurl : Url.parse "http://localhost:8080/rpg/" = .ok ⟨"http".toList, [], [], some (.name "localhost".toList),
      some 8080, .segments ["rpg".toList, []], none, none⟩ := by
    with_unfolding_all rfl
  exact hurl

/-- Behind a query, which is accepted, a route is not the documented one. -/
theorem routes_undocumented_query :
    ¬ ∀ (e : Config.Endpoint) (g : Gateway), e.validate = .ok () → ofEndpoint e = .ok g →
      ∀ kind function id, ∃ url, g.route kind function id = .ok url ∧ Documented kind function id url := by
  intro hall
  have hvalid : Config.Endpoint.validate { baseUrl := "http://localhost:8080/?x=1" } = .ok () := by
    with_unfolding_all rfl
  have hg : ofEndpoint { baseUrl := "http://localhost:8080/?x=1" } =
      .ok ⟨"http://localhost:8080/?x=1/api", []⟩ := by
    with_unfolding_all rfl
  obtain ⟨url, hurl, hpath, -⟩ := hall _ _ hvalid hg .system .profile none
  have hroute : (⟨"http://localhost:8080/?x=1/api", []⟩ : Gateway).route .system .profile none =
      .ok ⟨"http".toList, [], [], some (.name "localhost".toList), some 8080, .segments [[]],
        some "x=1/api/system/profile_full".toList, none⟩ := by
    with_unfolding_all rfl
  obtain rfl := Except.ok.inj (hroute.symm.trans hurl)
  have hlength := hpath.length_le
  exact absurd hlength (by decide)

end Gateway

end ProcessGraph
