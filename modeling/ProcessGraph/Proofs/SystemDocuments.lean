import ProcessGraph.Proofs.Profiles

/-!
# System documents

* `Value.HasMember`: a document is an object with a member. In a document whose objects list each key once, `get?`
  finds exactly these.
* `SystemProfile.Located`: where the container mapping of a system document stands, if there is one.
* `SystemProfile.Interpreted`: how a system document with this mapping is read.
* `SystemProfile.SameMapping`: two documents that do not differ in their container mapping, whatever else they hold.
* `SystemProfile.documents_interpreted`: a system document is read by its container mapping, and by nothing else.
-/

namespace ProcessGraph

open Json (Value Members ShapeError)

/-! ## members -/

namespace Json.Value

variable {d v : Value} {key : String}

/-- The document is an object with this member. -/
def HasMember (d : Value) (key : String) (v : Value) : Prop := ∃ ms, d = .object ms ∧ (key, v) ∈ ms

theorem HasMember.distinct (h : d.HasMember key v) (hd : d.Distinct) : v.Distinct := by
  obtain ⟨ms, rfl, hmem⟩ := h
  exact (distinct_object_iff.1 hd).2 key v hmem

theorem get?_eq_some_iff (hd : d.Distinct) : d.get? key = some v ↔ d.HasMember key v := by
  constructor
  · intro h
    cases d with
    | object ms => exact ⟨ms, rfl, Keyed.mem_of_find? h⟩
    | _ => cases h
  · rintro ⟨ms, rfl, hmem⟩
    exact Keyed.find?_of_mem (distinct_object_iff.1 hd).1 hmem

theorem get?_eq_none_iff (hd : d.Distinct) : d.get? key = none ↔ ∀ v, ¬ d.HasMember key v := by
  simp only [Option.eq_none_iff_forall_ne_some, ne_eq, get?_eq_some_iff hd]

end Json.Value

namespace SystemProfile

variable {d d' : Value} {m : Option Value}

/-! ## the container mapping -/

/-- Where the container mapping of a document stands: it is its own member, or else the member of its core store, or
else there is none. -/
inductive Located (d : Value) : Option Value → Prop where
  | own {v : Value} (h : d.HasMember "containers" v) : Located d (some v)
  | stored {store v : Value} (hown : ∀ u, ¬ d.HasMember "containers" u) (hstore : d.HasMember "core_store" store)
      (h : store.HasMember "containers" v) : Located d (some v)
  | nowhere (hown : ∀ u, ¬ d.HasMember "containers" u)
      (h : ∀ store u, d.HasMember "core_store" store → ¬ store.HasMember "containers" u) : Located d none

theorem located_mapping (hd : d.Distinct) : Located d (mapping? d) := by
  unfold mapping?
  cases hown : d.get? "containers" with
  | some v => exact .own ((Value.get?_eq_some_iff hd).1 hown)
  | none =>
    have hown := (Value.get?_eq_none_iff hd).1 hown
    cases hstore : d.get? "core_store" with
    | none => exact .nowhere hown fun store _ h => absurd h ((Value.get?_eq_none_iff hd).1 hstore store)
    | some store =>
      have hmember := (Value.get?_eq_some_iff hd).1 hstore
      simp only [Option.bind_some]
      cases hv : store.get? "containers" with
      | some v => exact .stored hown hmember ((Value.get?_eq_some_iff (hmember.distinct hd)).1 hv)
      | none =>
        refine .nowhere hown fun store' u h => ?_
        obtain rfl := Option.some.inj (hstore.symm.trans ((Value.get?_eq_some_iff hd).2 h))
        exact (Value.get?_eq_none_iff (hmember.distinct hd)).1 hv u

theorem Located.mapping_eq (h : Located d m) (hd : d.Distinct) : mapping? d = m := by
  unfold mapping?
  cases h with
  | own h => rw [(Value.get?_eq_some_iff hd).2 h]
  | stored hown hstore h =>
    rw [(Value.get?_eq_none_iff hd).2 hown, (Value.get?_eq_some_iff hd).2 hstore]
    exact (Value.get?_eq_some_iff (hstore.distinct hd)).2 h
  | nowhere hown h =>
    rw [(Value.get?_eq_none_iff hd).2 hown]
    cases hstore : d.get? "core_store" with
    | none => rfl
    | some store =>
      have hmember := (Value.get?_eq_some_iff hd).1 hstore
      exact (Value.get?_eq_none_iff (hmember.distinct hd)).2 fun u => h store u hmember

/-- **Every document has its container mapping in one place at most.** -/
theorem existsUnique_located (hd : d.Distinct) : ∃! m, Located d m :=
  ⟨mapping? d, located_mapping hd, fun _ h => (h.mapping_eq hd).symm⟩

/-- The mapping lists each key once, as all objects of the document do. -/
theorem Located.distinct {v : Value} (h : Located d (some v)) (hd : d.Distinct) : v.Distinct := by
  cases h with
  | own h => exact h.distinct hd
  | stored _ hstore h => exact h.distinct (hstore.distinct hd)

/-! ## reading a mapping -/

/-- The mapping is neither `null` nor an object. -/
def Unreadable (v : Value) : Prop := v ≠ .null ∧ ∀ ms, v ≠ .object ms

/-- The entries of an object, in its order. -/
def listed (ms : Members) : Keyed Identifier Value := ms.map fun (key, v) => (⟨key⟩, v)

theorem entries_of_unreadable {v : Value} (h : Unreadable v) :
    entries (some v) = .error (.invalidType (.ofValue v) .map) := by
  cases v with
  | null => exact absurd rfl h.1
  | object ms => exact absurd rfl (h.2 ms)
  | _ => rfl

theorem keys_listed (ms : Members) : Keyed.keys (listed ms) = (Keyed.keys ms).map Identifier.mk := by
  simp [Keyed.keys, listed]

theorem nodup_keys_listed {ms : Members} (h : (Value.object ms).Distinct) : (Keyed.keys (listed ms)).Nodup := by
  rw [keys_listed]
  exact (Value.distinct_object_iff.1 h).1.map fun _ _ heq => congrArg Identifier.text heq

/-- How a document with a container mapping is read. -/
structure Interpreted (d : Value) (m : Option Value) : Prop where
  fails_iff : (∃ e, ofDocument d = .error e) ↔ ∃ v, m = some v ∧ Unreadable v
  /-- The error tells what stands in the place of the mapping. -/
  error : ∀ e, ofDocument d = .error e → ∃ v, m = some v ∧ e = .invalidType (.ofValue v) .map
  document : ∀ p, ofDocument d = .ok p → p.document = d
  empty : ∀ p, ofDocument d = .ok p → m = none ∨ m = some .null → p.containers = []
  /-- The members of the mapping, with their values and in their order. -/
  members : ∀ p ms, ofDocument d = .ok p → m = some (.object ms) → p.containers = listed ms
  /-- Each key once, in this order. -/
  identifiers : ∀ p, ofDocument d = .ok p → p.containerIds = p.containers.map Prod.fst ∧ p.containerIds.Nodup

theorem ofDocument_of_entries {pairs : List (Identifier × Value)} (h : entries (mapping? d) = .ok pairs)
    {p : SystemProfile} (hp : ofDocument d = .ok p) : p.document = d ∧ p.containers = Keyed.ofPairs pairs := by
  rw [ofDocument, h] at hp
  obtain rfl := Except.ok.inj hp
  exact ⟨rfl, rfl⟩

theorem Located.interpreted (h : Located d m) (hd : d.Distinct) : Interpreted d m := by
  have hmapping := h.mapping_eq hd
  by_cases hm : ∃ v, m = some v ∧ Unreadable v
  · -- nothing is read
    obtain ⟨v, rfl, hv⟩ := hm
    have herror : ofDocument d = .error (.invalidType (.ofValue v) .map) := by
      rw [ofDocument, hmapping, entries_of_unreadable hv]
      rfl
    have hnot : ∀ p, ofDocument d ≠ .ok p := fun p hp => by cases herror.symm.trans hp
    refine ⟨⟨fun _ => ⟨v, rfl, hv⟩, fun _ => ⟨_, herror⟩⟩, fun e he => ?_, fun p hp => absurd hp (hnot p),
      fun p hp => absurd hp (hnot p), fun p _ hp => absurd hp (hnot p), fun p hp => absurd hp (hnot p)⟩
    cases herror.symm.trans he
    exact ⟨v, rfl, rfl⟩
  · obtain ⟨pairs, hpairs⟩ : ∃ pairs, entries m = .ok pairs := by
      match m with
      | none | some .null | some (.object ms) => exact ⟨_, rfl⟩
      | some (.bool _) | some (.number _) | some (.string _) | some (.array _) =>
        exact absurd ⟨_, rfl, nofun, nofun⟩ hm
    have hread : ∀ p, ofDocument d = .ok p → p.document = d ∧ p.containers = Keyed.ofPairs pairs := fun p hp =>
      ofDocument_of_entries (hmapping ▸ hpairs) hp
    have hok : ∀ e, ofDocument d ≠ .error e := by
      intro e he
      rw [ofDocument, hmapping, hpairs] at he
      cases he
    refine ⟨⟨fun ⟨e, he⟩ => absurd he (hok e), fun h => absurd h hm⟩, fun e he => absurd he (hok e),
      fun p hp => (hread p hp).1, fun p hp hempty => ?_, fun p ms hp hms => ?_, fun p _ => ⟨rfl, p.nodup⟩⟩
    · rw [(hread p hp).2]
      rcases hempty with rfl | rfl <;> obtain rfl := Except.ok.inj hpairs <;> rfl
    · subst hms
      obtain rfl := Except.ok.inj hpairs
      rw [(hread p hp).2]
      exact Keyed.ofPairs_of_nodup (nodup_keys_listed (h.distinct hd))

/-! ## what else a document holds -/

/-- Two documents do not differ in their own mapping and, where they have none, in that of their core stores. They
may differ in all other members, and in the whole core store where it does not count. -/
structure SameMapping (d d' : Value) : Prop where
  own : ∀ v, d.HasMember "containers" v ↔ d'.HasMember "containers" v
  stored : (∀ v, ¬ d.HasMember "containers" v) → ∀ v,
    (∃ store, d.HasMember "core_store" store ∧ store.HasMember "containers" v) ↔
      ∃ store, d'.HasMember "core_store" store ∧ store.HasMember "containers" v

theorem SameMapping.located (h : SameMapping d d') (hd : Located d m) : Located d' m := by
  cases hd with
  | own hown => exact .own ((h.own _).1 hown)
  | stored hown hstore hv =>
    obtain ⟨store, hstore, hv⟩ := (h.stored hown _).1 ⟨_, hstore, hv⟩
    exact .stored (fun u hu => hown u ((h.own u).2 hu)) hstore hv
  | nowhere hown hnone =>
    refine .nowhere (fun u hu => hown u ((h.own u).2 hu)) fun store u hstore hu => ?_
    obtain ⟨store, hstore, hu⟩ := (h.stored hown u).2 ⟨store, hstore, hu⟩
    exact hnone store u hstore hu

/-- **A system document is read by its container mapping**: its own one if it has one, be it `null` or malformed, or
else that of its core store. Nothing else in it makes a difference to the containers. -/
theorem documents_interpreted :
    (∀ d : Value, d.Distinct → (∃! m, Located d m) ∧ ∀ m, Located d m → Interpreted d m) ∧
    ∀ d d' : Value, d.Distinct → d'.Distinct → SameMapping d d' →
      (ofDocument d).map (·.containers) = (ofDocument d').map (·.containers) := by
  refine ⟨fun d hd => ⟨existsUnique_located hd, fun m h => h.interpreted hd⟩, fun d d' hd hd' h => ?_⟩
  have hsame : mapping? d' = mapping? d := (h.located (located_mapping hd)).mapping_eq hd'
  rw [ofDocument, ofDocument, hsame]
  cases entries (mapping? d) <;> rfl

/-- A mapping that lists `b` before `a`, beside a core store that is out of order. -/
def listing : Members := [("containers", .object [("b", .null), ("a", .bool true)]), ("core_store", .bool false)]

/-- A document whose own mapping is `null`, beside a mapping in its core store. -/
def shadowing : Members := [("core_store", .object [("containers", .object [("c", .null)])]), ("containers", .null)]

theorem documents_interpreted_listing :
    (Value.object listing).Distinct ∧ (Value.object shadowing).Distinct ∧
    (∀ p, ofDocument (.object listing) = .ok p → p.containerIds = [⟨"b"⟩, ⟨"a"⟩]) ∧
    (∀ p, ofDocument (.object shadowing) = .ok p → p.containers = []) ∧
    (ofDocument (.object (("name", .null) :: listing))).map (·.containers) =
      (ofDocument (.object listing)).map (·.containers) := by
  have hlisting : (Value.object listing).Distinct := by
    simp [listing, Value.Distinct, Value.DistinctMembers]
  have hnamed : (Value.object (("name", .null) :: listing)).Distinct := by
    simp [listing, Value.Distinct, Value.DistinctMembers]
  have hshadowing : (Value.object shadowing).Distinct := by
    simp [shadowing, Value.Distinct, Value.DistinctMembers]
  obtain ⟨hread, hsame⟩ := documents_interpreted
  have hown : Located (.object listing) (some (.object [("b", .null), ("a", .bool true)])) :=
    .own ⟨listing, rfl, List.mem_cons_self⟩
  have hnull : Located (.object shadowing) (some .null) := .own ⟨shadowing, rfl, by simp [shadowing]⟩
  refine ⟨hlisting, hshadowing, fun p hp => ?_, fun p hp => ?_, ?_⟩
  · have hinterpreted := (hread _ hlisting).2 _ hown
    rw [(hinterpreted.identifiers p hp).1, hinterpreted.members p _ hp rfl]
    rfl
  · exact ((hread _ hshadowing).2 _ hnull).empty p hp (.inr rfl)
  · refine hsame _ _ hnamed hlisting ⟨fun v => ?_, fun h => ?_⟩
    · simp [Value.HasMember]
    · exact absurd ⟨_, rfl, by simp [listing]⟩ (h (.object [("b", .null), ("a", .bool true)]))

end SystemProfile

end ProcessGraph
