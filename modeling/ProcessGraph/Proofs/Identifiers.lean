import ProcessGraph.Proofs.Routes

/-!
# Identifiers in routes

* `Text.FormEncoded.notMem_marks_of_mem_encode`: an encoded text has none of the marks of a URL.
* `Url.Carries`: a URL holds one pair more than another one, at the end of its query, and differs in nothing else.
* `Gateway.identifiers_carried`: every route with an identifier carries it, and two identifiers never share a URL.
-/

namespace ProcessGraph

namespace Text.FormEncoded

theorem encode_injective : Function.Injective encode := by
  intro cs ds h
  have hdecoded := congrArg (fun written => decode (Utf8.encode written)) h
  rwa [decode_encode, decode_encode] at hdecoded

/-- The characters that separate pairs, and the parts of a URL. -/
def marks : List Char := ['&', ';', '=', '?', '#', '/', ' ']

theorem notMem_marks_of_mem_encode {cs : List Char} : ∀ c ∈ encode cs, c ∉ marks := by
  intro c hc hmark
  have hwritten := isWritten_of_mem_encode c hc
  have hnone : ∀ d ∈ marks, isWritten d = false := by
    intro d hd
    simp only [marks, List.mem_cons, List.not_mem_nil, or_false] at hd
    rcases hd with rfl | rfl | rfl | rfl | rfl | rfl | rfl <;> rfl
  rw [hnone c hmark] at hwritten
  cases hwritten

end Text.FormEncoded

namespace Url

open Text (FormEncoded.encode FormEncoded.pair)

/-- What stands between a URL and a pair that is appended to its query. -/
def separator (base : Url) : List Char :=
  match base.query with
  | none => ['?']
  | some [] => []
  | some (_ :: _) => ['&']

/-- The URL is another one with one more pair at the end of its query. -/
structure Carries (base url : Url) (name value : List Char) : Prop where
  pairs : url.queryPairs = base.queryPairs ++ [(name, value)]
  /-- All but the query is kept, the fragment included. -/
  others : { url with query := base.query } = base
  /-- The pair is written before the fragment, and what was written stays. -/
  chars : url.chars = base.charsWithoutFragment ++ (base.separator ++ FormEncoded.pair name value) ++ base.fragmentChars
  /-- The value ends nothing. -/
  unmarked : ∀ c ∈ FormEncoded.encode value, c ∉ Text.FormEncoded.marks

variable {base url url' : Url} {name value value' : List Char}

theorem carries_appendPair (base : Url) (name value : List Char) :
    Carries base (base.appendPair name value) name value where
  pairs := Gateway.queryPairs_appendPair base name value
  others := rfl
  chars := by
    have hquery : (base.appendPair name value).queryChars =
        base.queryChars ++ (base.separator ++ FormEncoded.pair name value) := by
      unfold appendPair queryChars separator
      match base.query with
      | none | some [] => rfl
      | some (c :: q) => simp
    have hfront : (base.appendPair name value).charsWithoutFragment =
        base.charsWithoutFragment ++ (base.separator ++ FormEncoded.pair name value) := by
      calc (base.appendPair name value).charsWithoutFragment
          = base.scheme ++ ':' :: (base.authorityChars ++ (base.path.chars ++
              (base.appendPair name value).queryChars)) := rfl
        _ = base.charsWithoutFragment ++ (base.separator ++ FormEncoded.pair name value) := by
            rw [hquery]
            simp [charsWithoutFragment]
    exact congrArg (· ++ base.fragmentChars) hfront
  unmarked := Text.FormEncoded.notMem_marks_of_mem_encode

/-- The written URL tells which value it carries. -/
theorem Carries.value_eq (h : Carries base url name value) (h' : Carries base url' name value')
    (htext : url.text = url'.text) : value = value' := by
  have hchars : url.chars = url'.chars := String.ofList_injective htext
  rw [h.chars, h'.chars] at hchars
  have hpair : FormEncoded.pair name value = FormEncoded.pair name value' :=
    List.append_cancel_left (List.append_cancel_left (List.append_cancel_right hchars))
  have hvalue := List.append_cancel_left hpair
  exact Text.FormEncoded.encode_injective (List.cons.inj hvalue).2

end Url

namespace Gateway

/-- A route with an identifier is the route without it, and the pair. -/
theorem exists_carries {g : Gateway} {kind : Kind} {function : Function} {id : Identifier} {url : Url}
    (h : g.route kind function (some id) = .ok url) :
    ∃ base, g.route kind function none = .ok base ∧
      Url.Carries base url identifierName.toList id.text.toList := by
  obtain ⟨base, hbase, hurl⟩ := exists_of_bind_eq_ok h
  obtain rfl := Except.ok.inj hurl
  refine ⟨base, ?_, Url.carries_appendPair base _ _⟩
  rw [route, hbase]
  rfl

/-- **Identifiers survive the query.** Whatever text an identifier is, a route with it holds the pair of its name and
this text, after the pairs of the root and before its fragment, and nothing else of it; two identifiers never have
one URL. -/
theorem identifiers_carried (g : Gateway) (kind : Kind) (function : Function) :
    (∀ id url, g.route kind function (some id) = .ok url →
      url.queryPairs.getLast? = some ("identifier".toList, id.text.toList) ∧
      ∃ base, g.route kind function none = .ok base ∧
        Url.Carries base url "identifier".toList id.text.toList) ∧
    ∀ id id' url url', g.route kind function (some id) = .ok url → g.route kind function (some id') = .ok url' →
      id ≠ id' → url.text ≠ url'.text := by
  refine ⟨fun id url h => ?_, fun id id' url url' h h' hne htext => ?_⟩
  · obtain ⟨base, hbase, hcarries⟩ := exists_carries h
    refine ⟨?_, base, hbase, hcarries⟩
    rw [hcarries.pairs, List.getLast?_concat]
    rfl
  · obtain ⟨base, hbase, hcarries⟩ := exists_carries h
    obtain ⟨base', hbase', hcarries'⟩ := exists_carries h'
    obtain rfl := Except.ok.inj (hbase.symm.trans hbase')
    refine hne ?_
    have hvalue := hcarries.value_eq hcarries' htext
    cases id
    cases id'
    exact congrArg Identifier.mk (String.toList_injective hvalue)

/-- The URL of a function behind a root with a query and a fragment. -/
def fragmented : Url :=
  ⟨"http".toList, [], [], some (.name "localhost".toList), some 8080, .segments [[]], some "x=1".toList,
    some "top/container_process/call".toList⟩

/-- An identifier that reads like pairs and a fragment. -/
theorem identifiers_carried_marks :
    let g : Gateway := ⟨"http://localhost:8080/?x=1#top", []⟩
    ∃ url url', ofEndpoint { baseUrl := "http://localhost:8080/?x=1#top", apiPrefix := "" } = .ok g ∧
      g.route .process .call (some ⟨"a&identifier=b#c"⟩) = .ok url ∧
      g.route .process .call (some ⟨"b#c"⟩) = .ok url' ∧
      url.queryPairs.getLast? = some ("identifier".toList, "a&identifier=b#c".toList) ∧ url.text ≠ url'.text := by
  intro g
  have hg : ofEndpoint { baseUrl := "http://localhost:8080/?x=1#top", apiPrefix := "" } = .ok g := by
    with_unfolding_all rfl
  have htext : g.routeText .process .call = "http://localhost:8080/?x=1#top/container_process/call" := by
    decide
  have hbase : Url.parse "http://localhost:8080/?x=1#top/container_process/call" = .ok fragmented := by
    with_unfolding_all rfl
  have hroute : ∀ id, g.route .process .call (some id) =
      .ok (fragmented.appendPair identifierName.toList id.text.toList) := by
    intro id
    rw [route, htext, hbase]
    rfl
  have hcarried := identifiers_carried g .process .call
  exact ⟨_, _, hg, hroute _, hroute _, (hcarried.1 _ _ (hroute _)).1,
    hcarried.2 _ _ _ _ (hroute _) (hroute _) (by decide)⟩

end Gateway

end ProcessGraph
