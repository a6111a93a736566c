import Mathlib.Data.List.Nodup
import ProcessGraph.Profile
import ProcessGraph.Proofs.SameResults

/-!
# Profiles and their documents

* `MemberType`: what a named member is wanted to hold, which values that are and how others are refused.
* `RecordFormat`: the named members of a document. All other members are kept as they are.
* `RecordFormat.Refuses`: why a document is refused, read off the document.
* `RecordFormat.Lossless`: a decoder and an encoder that lose nothing.
* `RecordFormat.Decodes`: a decoder that reads the members one by one. `Decodes.lossless`: it loses nothing.
* `profiles_lossless`: decoding and encoding the profiles of containers and processes loses nothing.
-/

namespace ProcessGraph

open Json (Value Members ShapeError Found)

/-! ## entries -/

namespace Keyed

variable {κ α : Type} [DecidableEq κ]

theorem find?_append (k : κ) (xs ys : Keyed κ α) : find? k (xs ++ ys) = (find? k xs).or (find? k ys) := by
  induction xs with
  | nil => rfl
  | cons x xs ih =>
    obtain ⟨k', v⟩ := x
    rw [List.cons_append, find?, find?]
    split
    · rfl
    · exact ih

theorem exists_find?_of_mem_keys {k : κ} {entries : Keyed κ α} (h : k ∈ keys entries) :
    ∃ v, find? k entries = some v := by
  induction entries with
  | nil => cases h
  | cons e rest ih =>
    obtain ⟨k', v⟩ := e
    rw [find?]
    split
    · exact ⟨v, rfl⟩
    next hne => exact ih ((List.mem_cons.1 h).resolve_left (Ne.symm hne))

theorem find?_filter {k : κ} {p : κ → Bool} (hk : p k) (entries : Keyed κ α) :
    find? k (entries.filter fun e => p e.1) = find? k entries := by
  induction entries with
  | nil => rfl
  | cons e rest ih =>
    obtain ⟨k', v⟩ := e
    by_cases hkey : k' = k
    · subst hkey
      simp [hk, find?]
    · rw [find?, if_neg hkey, List.filter_cons]
      split
      · rw [find?, if_neg hkey, ih]
      · exact ih

/-- Entries are those of some names, in the order of these, and the others. -/
theorem perm_named {names : List κ} (hnames : names.Nodup) {entries : Keyed κ α} (h : (keys entries).Nodup) :
    (names.filterMap (fun k => (find? k entries).map (k, ·)) ++ entries.filter (·.1 ∉ names)).Perm entries := by
  have hnamed : ∀ k v, (k, v) ∈ names.filterMap (fun k => (find? k entries).map (k, ·)) ↔
      k ∈ names ∧ find? k entries = some v := by
    intro k v
    simp [List.mem_filterMap]
  have hmem : ∀ k v, (k, v) ∈ entries ↔ find? k entries = some v :=
    fun k v => ⟨find?_of_mem h, mem_of_find?⟩
  have hnodup : entries.Nodup := List.Nodup.of_map _ h
  refine (List.perm_ext_iff_of_nodup ?_ hnodup).2 ?_
  · refine List.nodup_append.2 ⟨List.Nodup.filterMap ?_ hnames, hnodup.filter _, ?_⟩
    · simp only [Option.mem_def, Option.map_eq_some_iff]
      rintro k k' _ ⟨v, -, rfl⟩ ⟨v', -, heq⟩
      exact (congrArg Prod.fst heq).symm
    · rintro ⟨k, v⟩ hleft _ hright rfl
      exact of_decide_eq_true (List.mem_filter.1 hright).2 ((hnamed k v).1 hleft).1
  · rintro ⟨k, v⟩
    rw [List.mem_append, List.mem_filter, hnamed, hmem]
    by_cases hk : k ∈ names <;> simp [hk]

end Keyed

/-! ## named members -/

namespace Json

/-- What a named member is wanted to hold. -/
inductive MemberType where
  | text
  | texts

namespace MemberType

/-- The values of the type. -/
def Fits : MemberType → Value → Prop
  | text, v => ∃ s, v = .string s
  | texts, v => ∃ ss : List String, v = .array (ss.map .string)

/-- How a value is refused that is not of the type: an array of texts by its first item that is none. -/
inductive Refuses : MemberType → Value → ShapeError → Prop where
  | text {v : Value} (h : ∀ s, v ≠ .string s) : Refuses text v (.invalidType (.ofValue v) .string)
  | noArray {v : Value} (h : ∀ items, v ≠ .array items) :
      Refuses texts v (.invalidType (.ofValue v) .sequence)
  | item (before : List String) {v : Value} (after : List Value) (h : ∀ s, v ≠ .string s) :
      Refuses texts (.array (before.map .string ++ v :: after)) (.invalidType (.ofValue v) .string)

end MemberType

namespace Value

theorem asString_of_ne {v : Value} (h : ∀ s, v ≠ .string s) :
    v.asString = .error (.invalidType (.ofValue v) .string) := by
  cases v with
  | string s => exact absurd rfl (h s)
  | _ => rfl

theorem asStringList_strings (ss : List String) : asStringList (ss.map .string) = .ok ss := by
  induction ss with
  | nil => rfl
  | cons s rest ih =>
    rw [List.map_cons, asStringList, ih]
    rfl

theorem asStringList_of_ne (before : List String) {v : Value} (after : List Value) (h : ∀ s, v ≠ .string s) :
    asStringList (before.map .string ++ v :: after) = .error (.invalidType (.ofValue v) .string) := by
  induction before with
  | nil =>
    rw [List.map_nil, List.nil_append, asStringList, asString_of_ne h]
    rfl
  | cons s rest ih =>
    rw [List.map_cons, List.cons_append, asStringList, ih]
    rfl

theorem asString_of_refuses {v : Value} {e : ShapeError} (h : MemberType.text.Refuses v e) :
    v.asString = .error e := by
  obtain ⟨h⟩ := h
  exact asString_of_ne h

theorem asStrings_of_refuses {v : Value} {e : ShapeError} (h : MemberType.texts.Refuses v e) :
    v.asStrings = .error e := by
  cases h with
  | noArray h =>
    cases v with
    | array items => exact absurd rfl (h items)
    | _ => rfl
  | item before after h => exact asStringList_of_ne before after h

/-- The items of an array are texts up to the first that is none. -/
theorem texts_or_first (items : List Value) : (∃ ss : List String, items = ss.map .string) ∨
    ∃ (before : List String) (v : Value) (after : List Value),
      items = before.map .string ++ v :: after ∧ ∀ s, v ≠ .string s := by
  induction items with
  | nil => exact .inl ⟨[], rfl⟩
  | cons x rest ih =>
    by_cases hx : ∃ s, x = .string s
    · obtain ⟨s, rfl⟩ := hx
      rcases ih with ⟨ss, rfl⟩ | ⟨before, v, after, rfl, hv⟩
      · exact .inl ⟨s :: ss, rfl⟩
      · exact .inr ⟨s :: before, v, after, rfl, hv⟩
    · exact .inr ⟨[], x, rest, rfl, fun s h => hx ⟨s, h⟩⟩

theorem distinct_object_iff {ms : Members} :
    (object ms).Distinct ↔ (Keyed.keys ms).Nodup ∧ ∀ k v, (k, v) ∈ ms → v.Distinct := by
  have hmembers : DistinctMembers ms ↔ ∀ k v, (k, v) ∈ ms → v.Distinct := by
    refine ⟨fun h k v => Distinct.of_mem_members h, fun h => ?_⟩
    induction ms with
    | nil => trivial
    | cons m rest ih => exact ⟨h _ _ List.mem_cons_self, ih fun k v hmem => h k v (List.mem_cons_of_mem _ hmem)⟩
  rw [Distinct, hmembers]
  rfl

/-- An object is equal to another one that lists the same members in another order. -/
theorem same_of_perm {xs ys : Members} (hperm : xs.Perm ys) (h : (object ys).Distinct) :
    (object xs).same (object ys) = true := by
  obtain ⟨hnodup, hmembers⟩ := distinct_object_iff.1 h
  rw [same, Bool.and_eq_true, beq_iff_eq]
  refine ⟨hperm.length_eq, sameMembers_iff.2 fun k v hmem => ?_⟩
  have hmem' := hperm.mem_iff.1 hmem
  exact ⟨v, Keyed.find?_of_mem hnodup hmem', same_self v (hmembers k v hmem')⟩

end Value

/-- A value is of a type, or it is refused. -/
theorem MemberType.fits_or_refuses (t : MemberType) (v : Value) : t.Fits v ∨ ∃ e, t.Refuses v e := by
  cases t with
  | text =>
    by_cases h : ∃ s, v = .string s
    · exact .inl h
    · exact .inr ⟨_, .text fun s hs => h ⟨s, hs⟩⟩
  | texts =>
    by_cases h : ∃ items, v = .array items
    · obtain ⟨items, rfl⟩ := h
      rcases Value.texts_or_first items with ⟨ss, rfl⟩ | ⟨before, v, after, rfl, hv⟩
      · exact .inl ⟨ss, rfl⟩
      · exact .inr ⟨_, .item before after hv⟩
    · exact .inr ⟨_, .noArray fun items hs => h ⟨items, hs⟩⟩

end Json

open Json (MemberType)

/-- The named members of a record: their types, which of them is required, and what stands for others that are
missing. All members without a type are kept as they are. -/
structure RecordFormat where
  record : String
  named : Keyed String MemberType
  required : String
  defaults : Members

namespace RecordFormat

variable {π δ : Type} {f : RecordFormat}

/-- The type of a member, if it is named. -/
def typeOf? (f : RecordFormat) (key : String) : Option MemberType := Keyed.find? key f.named

/-- The members that are not named, in their order. -/
def others (f : RecordFormat) (ms : Members) : Members := ms.filter fun m => (f.typeOf? m.1).isNone

/-- The members, and the defaults of those that are missing. -/
def complete (f : RecordFormat) (ms : Members) : Members :=
  ms ++ f.defaults.filter fun m => m.1 ∉ Keyed.keys ms

/-- Every named member is of its type. -/
def WellTyped (f : RecordFormat) (ms : Members) : Prop :=
  ∀ k v, (k, v) ∈ ms → ∀ t, f.typeOf? k = some t → t.Fits v

/-- Why a document is refused: it is no object, or a named member is the first in document order that is not of its
type, or all are of their types and the required one is missing. -/
inductive Refuses (f : RecordFormat) : Value → ShapeError → Prop where
  | noObject {d : Value} (h : ∀ ms, d ≠ .object ms) :
      f.Refuses d (.invalidType (.ofValue d) (.record f.record))
  | illTyped {before : Members} {k : String} {v : Value} (after : Members) {t : MemberType} {e : ShapeError}
      (hbefore : f.WellTyped before) (ht : f.typeOf? k = some t) (h : t.Refuses v e) :
      f.Refuses (.object (before ++ (k, v) :: after)) e
  | missing {ms : Members} (h : f.WellTyped ms) (hmissing : f.required ∉ Keyed.keys ms) :
      f.Refuses (.object ms) (.missingField f.required)

/-- A decoder and an encoder of a record lose nothing. -/
structure Lossless (f : RecordFormat) (ofDocument : Value → Except ShapeError π) (toDocument : π → Value)
    (extra : π → Members) : Prop where
  accepts : ∀ d, (∃ p, ofDocument d = .ok p) ↔
    ∃ ms, d = .object ms ∧ f.WellTyped ms ∧ f.required ∈ Keyed.keys ms
  /-- All members that are not named are kept as they are, in document order. -/
  kept : ∀ ms p, ofDocument (.object ms) = .ok p → extra p = f.others ms
  /-- What was decoded is encoded as the same members and the defaults of those that were missing. -/
  encoded : ∀ ms p, ofDocument (.object ms) = .ok p → (Value.object ms).Distinct →
    (∃ es, toDocument p = .object es ∧ es.Perm (f.complete ms)) ∧
      (toDocument p).same (.object (f.complete ms))
  /-- What was encoded is decoded again. -/
  decoded : ∀ p, (∀ k ∈ Keyed.keys (extra p), f.typeOf? k = none) → ofDocument (toDocument p) = .ok p
  refuses : ∀ d e, ofDocument d = .error e ↔ f.Refuses d e

/-! ## what is refused and what is not -/

theorem wellTyped_nil : f.WellTyped [] := fun _ _ h => nomatch h

theorem wellTyped_cons_iff {k : String} {v : Value} {rest : Members} :
    f.WellTyped ((k, v) :: rest) ↔ (∀ t, f.typeOf? k = some t → t.Fits v) ∧ f.WellTyped rest := by
  refine ⟨fun h => ⟨h k v List.mem_cons_self, fun k' v' hmem => h k' v' (List.mem_cons_of_mem _ hmem)⟩, ?_⟩
  rintro ⟨hv, hrest⟩ k' v' hmem
  rcases List.mem_cons.1 hmem with heq | hmem
  · cases heq
    exact hv
  · exact hrest k' v' hmem

/-- A member is of its type, or it is refused. -/
theorem fits_or_refuses (f : RecordFormat) (k : String) (v : Value) :
    (∀ t, f.typeOf? k = some t → t.Fits v) ∨ ∃ t e, f.typeOf? k = some t ∧ t.Refuses v e := by
  cases ht : f.typeOf? k with
  | none => exact .inl (by simp)
  | some t =>
    rcases t.fits_or_refuses v with hfits | ⟨e, he⟩
    · exact .inl (by simpa using hfits)
    · exact .inr ⟨t, e, rfl, he⟩

/-- Either all members are of their types, or one is the first that is not. -/
theorem wellTyped_or_refuses (f : RecordFormat) (ms : Members) :
    f.WellTyped ms ∨ ∃ (before : Members) (k : String) (v : Value) (after : Members) (t : MemberType)
      (e : ShapeError), ms = before ++ (k, v) :: after ∧ f.WellTyped before ∧ f.typeOf? k = some t ∧
        t.Refuses v e := by
  induction ms with
  | nil => exact .inl wellTyped_nil
  | cons m rest ih =>
    obtain ⟨k, v⟩ := m
    rcases f.fits_or_refuses k v with hv | ⟨t, e, ht, he⟩
    · rcases ih with hrest | ⟨before, k', v', after, t, e, rfl, hbefore, ht, he⟩
      · exact .inl (wellTyped_cons_iff.2 ⟨hv, hrest⟩)
      · exact .inr ⟨(k, v) :: before, k', v', after, t, e, rfl, wellTyped_cons_iff.2 ⟨hv, hbefore⟩, ht, he⟩
    · exact .inr ⟨[], k, v, rest, t, e, rfl, wellTyped_nil, ht, he⟩

/-- A document is read as a record, or it is refused. -/
theorem accepts_or_refuses (f : RecordFormat) (d : Value) :
    (∃ ms, d = .object ms ∧ f.WellTyped ms ∧ f.required ∈ Keyed.keys ms) ∨ ∃ e, f.Refuses d e := by
  by_cases hobject : ∃ ms, d = .object ms
  · obtain ⟨ms, rfl⟩ := hobject
    rcases f.wellTyped_or_refuses ms with h | ⟨before, k, v, after, t, e, rfl, hbefore, ht, he⟩
    · by_cases hrequired : f.required ∈ Keyed.keys ms
      · exact .inl ⟨ms, rfl, h, hrequired⟩
      · exact .inr ⟨_, .missing h hrequired⟩
    · exact .inr ⟨e, .illTyped after hbefore ht he⟩
  · exact .inr ⟨_, .noObject fun ms h => hobject ⟨ms, h⟩⟩

theorem keys_complete_nodup {ms : Members} (h : (Keyed.keys ms).Nodup) (hdefaults : (Keyed.keys f.defaults).Nodup) :
    (Keyed.keys (f.complete ms)).Nodup := by
  rw [complete, Keyed.keys, List.map_append]
  refine List.nodup_append.2 ⟨h, (List.filter_sublist.map _).nodup hdefaults, ?_⟩
  rintro k hk _ hk' rfl
  obtain ⟨m, hm, rfl⟩ := List.mem_map.1 hk'
  exact of_decide_eq_true (List.mem_filter.1 hm).2 hk

theorem complete_distinct {ms : Members} (h : (Value.object ms).Distinct)
    (hdefaults : (Value.object f.defaults).Distinct) : (Value.object (f.complete ms)).Distinct := by
  rw [Value.distinct_object_iff] at h hdefaults ⊢
  refine ⟨keys_complete_nodup h.1 hdefaults.1, fun k v hmem => ?_⟩
  rcases List.mem_append.1 hmem with hmem | hmem
  · exact h.2 k v hmem
  · exact hdefaults.2 k v (List.mem_filter.1 hmem).1

theorem find?_complete (f : RecordFormat) (ms : Members) (k : String) :
    Keyed.find? k (f.complete ms) = (Keyed.find? k ms).or (Keyed.find? k f.defaults) := by
  rw [complete, Keyed.find?_append]
  by_cases hk : k ∈ Keyed.keys ms
  · obtain ⟨v, hv⟩ := Keyed.exists_find?_of_mem_keys hk
    rw [hv, Option.some_or, Option.some_or]
  · rw [Keyed.find?_of_not_mem hk, Option.none_or, Option.none_or]
    exact Keyed.find?_filter (p := (· ∉ Keyed.keys ms)) (by simpa using hk) f.defaults

theorem others_cons_of_none {k : String} (h : f.typeOf? k = none) (v : Value) (rest : Members) :
    f.others ((k, v) :: rest) = (k, v) :: f.others rest :=
  List.filter_cons_of_pos (by simp [h])

theorem others_cons_of_some {k : String} {t : MemberType} (h : f.typeOf? k = some t) (v : Value) (rest : Members) :
    f.others ((k, v) :: rest) = f.others rest :=
  List.filter_cons_of_neg (by simp [h])

theorem typeOf?_eq_none_iff {k : String} : f.typeOf? k = none ↔ k ∉ Keyed.keys f.named := by
  refine ⟨fun hnone hmem => ?_, Keyed.find?_of_not_mem⟩
  obtain ⟨t, ht⟩ := Keyed.exists_find?_of_mem_keys hmem
  cases hnone.symm.trans ht

/-- Defaults of named members are none of the others. -/
theorem others_complete (hnamed : ∀ k ∈ Keyed.keys f.defaults, k ∈ Keyed.keys f.named) (ms : Members) :
    f.others (f.complete ms) = f.others ms := by
  have hnone : f.others (f.defaults.filter fun m => m.1 ∉ Keyed.keys ms) = [] := by
    refine List.filter_eq_nil_iff.2 fun m hm => ?_
    rw [Option.isNone_iff_eq_none, typeOf?_eq_none_iff, not_not]
    exact hnamed m.1 (List.mem_map_of_mem (List.mem_filter.1 hm).1)
  rw [others, complete, List.filter_append]
  exact (congrArg _ hnone).trans (List.append_nil _)

/-- The members of an object are those of the names and the others. -/
theorem named_append_others_perm {ms : Members} (hnames : (Keyed.keys f.named).Nodup) (h : (Keyed.keys ms).Nodup) :
    ((Keyed.keys f.named).filterMap (fun k => (Keyed.find? k ms).map (k, ·)) ++ f.others ms).Perm ms := by
  have hothers : f.others ms = ms.filter (·.1 ∉ Keyed.keys f.named) := by
    refine List.filter_congr fun m _ => ?_
    rw [Bool.eq_iff_iff, Option.isNone_iff_eq_none, typeOf?_eq_none_iff, decide_eq_true_iff]
  rw [hothers]
  exact Keyed.perm_named hnames h

/-! ## decoders that read members in order -/

/-- A reader takes the members of a document one by one. A member of its type goes into what is read of the rest, any
other one is refused at once. `value` gives what was read under a name, `rest` what was kept beside. -/
structure Reads (f : RecordFormat) (read : Members → Except ShapeError δ) (value : δ → String → Option Value)
    (rest : δ → Members) : Prop where
  nil : ∃ draft, read [] = .ok draft ∧ (∀ k, value draft k = none) ∧ rest draft = []
  named : ∀ k v t, f.typeOf? k = some t → t.Fits v → ∃ put : δ → δ,
    (∀ ms, read ((k, v) :: ms) = (read ms).map put) ∧
    ∀ draft, (∀ k', value (put draft) k' = if k = k' then some v else value draft k') ∧
      rest (put draft) = rest draft
  other : ∀ k v, f.typeOf? k = none → ∃ put : δ → δ,
    (∀ ms, read ((k, v) :: ms) = (read ms).map put) ∧
    ∀ draft, value (put draft) = value draft ∧ rest (put draft) = (k, v) :: rest draft
  refuses : ∀ k v t e, f.typeOf? k = some t → t.Refuses v e → ∀ ms, read ((k, v) :: ms) = .error e

variable {read : Members → Except ShapeError δ} {value : δ → String → Option Value} {rest : δ → Members}

theorem Reads.takes (h : f.Reads read value rest) {k : String} {v : Value}
    (hv : ∀ t, f.typeOf? k = some t → t.Fits v) : ∃ put : δ → δ, ∀ ms, read ((k, v) :: ms) = (read ms).map put := by
  cases ht : f.typeOf? k with
  | none =>
    obtain ⟨put, hput, -⟩ := h.other k v ht
    exact ⟨put, hput⟩
  | some t =>
    obtain ⟨put, hput, -⟩ := h.named k v t ht (hv t ht)
    exact ⟨put, hput⟩

/-- **The first member that is not of its type** gives the error. -/
theorem Reads.error_of_illTyped (hread : f.Reads read value rest) {before : Members}
    (hbefore : f.WellTyped before) {k : String} {v : Value} {t : MemberType} {e : ShapeError}
    (ht : f.typeOf? k = some t) (h : t.Refuses v e) (after : Members) :
    read (before ++ (k, v) :: after) = .error e := by
  induction before with
  | nil => exact hread.refuses k v t e ht h after
  | cons m ms ih =>
    obtain ⟨hm, hms⟩ := wellTyped_cons_iff.1 hbefore
    obtain ⟨put, hput⟩ := hread.takes hm
    rw [List.cons_append, hput, ih hms]
    rfl

/-- **Members that are of their types** are read under their names, and the others are kept. -/
theorem Reads.of_wellTyped (hread : f.Reads read value rest) {ms : Members} (h : f.WellTyped ms) :
    ∃ draft, read ms = .ok draft ∧
      (∀ k t, f.typeOf? k = some t → value draft k = Keyed.find? k ms) ∧ rest draft = f.others ms := by
  induction ms with
  | nil =>
    obtain ⟨draft, hdraft, hvalue, hrest⟩ := hread.nil
    exact ⟨draft, hdraft, fun k _ _ => hvalue k, hrest⟩
  | cons m ms ih =>
    obtain ⟨k, v⟩ := m
    obtain ⟨hv, hms⟩ := wellTyped_cons_iff.1 h
    obtain ⟨draft, hdraft, hvalue, hrest⟩ := ih hms
    cases ht : f.typeOf? k with
    | none =>
      obtain ⟨put, hput, hkeep⟩ := hread.other k v ht
      refine ⟨put draft, by rw [hput, hdraft]; rfl, fun k' t' ht' => ?_, ?_⟩
      · have hne : k ≠ k' := by
          rintro rfl
          cases ht.symm.trans ht'
        rw [(hkeep draft).1, hvalue k' t' ht', Keyed.find?, if_neg hne]
      · rw [(hkeep draft).2, hrest, others_cons_of_none ht]
    | some t =>
      obtain ⟨put, hput, hkeep⟩ := hread.named k v t ht (hv t ht)
      refine ⟨put draft, by rw [hput, hdraft]; rfl, fun k' t' ht' => ?_, ?_⟩
      · rw [(hkeep draft).1, hvalue k' t' ht', Keyed.find?]
      · rw [(hkeep draft).2, hrest, others_cons_of_some ht]

/-- A decoder reads the members of an object and then makes a value of what it has read. Its encoder writes the named
members and then the others. -/
structure Decodes (f : RecordFormat) (read : Members → Except ShapeError δ) (value : δ → String → Option Value)
    (rest : δ → Members) (ofDocument : Value → Except ShapeError π) (toDocument : π → Value)
    (extra : π → Members) : Prop where
  reads : f.Reads read value rest
  noObject : ∀ d, (∀ ms, d ≠ .object ms) → ofDocument d = .error (.invalidType (.ofValue d) (.record f.record))
  unread : ∀ ms e, read ms = .error e → ofDocument (.object ms) = .error e
  missing : ∀ ms draft, read ms = .ok draft → value draft f.required = none →
    ofDocument (.object ms) = .error (.missingField f.required)
  made : ∀ ms draft v, read ms = .ok draft → value draft f.required = some v →
    ∃ p, ofDocument (.object ms) = .ok p ∧ extra p = rest draft ∧ toDocument p = .object
      ((Keyed.keys f.named).filterMap (fun k => ((value draft k).or (Keyed.find? k f.defaults)).map (k, ·)) ++
        rest draft)

/-- What holds of the names, the required one and the defaults. -/
structure WellFormed (f : RecordFormat) : Prop where
  nodup : (Keyed.keys f.named).Nodup
  required : f.required ∈ Keyed.keys f.named
  defaults : ∀ k ∈ Keyed.keys f.defaults, k ∈ Keyed.keys f.named
  distinct : (Value.object f.defaults).Distinct

variable {ofDocument : Value → Except ShapeError π} {toDocument : π → Value} {extra : π → Members}

theorem Decodes.error_of_refuses (h : f.Decodes read value rest ofDocument toDocument extra) (hf : f.WellFormed)
    {d : Value} {e : ShapeError} (hd : f.Refuses d e) : ofDocument d = .error e := by
  cases hd with
  | noObject hd => exact h.noObject d hd
  | illTyped after hbefore ht he => exact h.unread _ _ (h.reads.error_of_illTyped hbefore ht he after)
  | missing hms hmissing =>
    obtain ⟨draft, hdraft, hvalue, -⟩ := h.reads.of_wellTyped hms
    obtain ⟨t, ht⟩ := Keyed.exists_find?_of_mem_keys hf.required
    refine h.missing _ draft hdraft ?_
    rw [hvalue _ t ht, Keyed.find?_of_not_mem hmissing]

/-- What an accepted document gives: the other members as they stand, and the same members when it is encoded. -/
theorem Decodes.ok_of_accepts (h : f.Decodes read value rest ofDocument toDocument extra) (hf : f.WellFormed)
    {ms : Members} (hms : f.WellTyped ms) (hrequired : f.required ∈ Keyed.keys ms) :
    ∃ p, ofDocument (.object ms) = .ok p ∧ extra p = f.others ms ∧
      ((Keyed.keys ms).Nodup → ∃ es, toDocument p = .object es ∧ es.Perm (f.complete ms)) := by
  obtain ⟨draft, hdraft, hvalue, hrest⟩ := h.reads.of_wellTyped hms
  obtain ⟨t, ht⟩ := Keyed.exists_find?_of_mem_keys hf.required
  obtain ⟨v, hv⟩ := Keyed.exists_find?_of_mem_keys hrequired
  obtain ⟨p, hp, hextra, hdocument⟩ := h.made ms draft v hdraft (by rw [hvalue _ t ht, hv])
  refine ⟨p, hp, hextra.trans hrest, fun hnodup => ⟨_, hdocument, ?_⟩⟩
  have hnamed : (Keyed.keys f.named).filterMap
      (fun k => ((value draft k).or (Keyed.find? k f.defaults)).map (k, ·)) =
        (Keyed.keys f.named).filterMap fun k => (Keyed.find? k (f.complete ms)).map (k, ·) := by
    refine List.filterMap_congr fun k hk => ?_
    obtain ⟨t, ht⟩ := Keyed.exists_find?_of_mem_keys hk
    rw [hvalue k t ht, find?_complete]
  rw [hnamed, hrest, ← others_complete hf.defaults ms]
  exact named_append_others_perm hf.nodup (keys_complete_nodup hnodup hf.distinct.1)

/-- **Nothing is lost** by a decoder that reads all members, if its encodings are decoded again. -/
theorem Decodes.lossless (h : f.Decodes read value rest ofDocument toDocument extra) (hf : f.WellFormed)
    (hdecoded : ∀ p, (∀ k ∈ Keyed.keys (extra p), f.typeOf? k = none) → ofDocument (toDocument p) = .ok p) :
    f.Lossless ofDocument toDocument extra := by
  have hok : ∀ ms p, ofDocument (.object ms) = .ok p → extra p = f.others ms ∧
      ((Keyed.keys ms).Nodup → ∃ es, toDocument p = .object es ∧ es.Perm (f.complete ms)) := by
    intro ms p hp
    rcases f.accepts_or_refuses (.object ms) with ⟨_, ⟨⟩, hms, hrequired⟩ | ⟨e, he⟩
    · obtain ⟨p', hp', hkept⟩ := h.ok_of_accepts hf hms hrequired
      cases hp.symm.trans hp'
      exact hkept
    · cases hp.symm.trans (h.error_of_refuses hf he)
  refine ⟨fun d => ?_, fun ms p hp => (hok ms p hp).1, fun ms p hp hdistinct => ?_, hdecoded, fun d e => ?_⟩
  · constructor
    · rintro ⟨p, hp⟩
      refine (f.accepts_or_refuses d).resolve_right ?_
      rintro ⟨e, he⟩
      cases hp.symm.trans (h.error_of_refuses hf he)
    · rintro ⟨ms, rfl, hms, hrequired⟩
      obtain ⟨p, hp, -⟩ := h.ok_of_accepts hf hms hrequired
      exact ⟨p, hp⟩
  · obtain ⟨es, hes, hperm⟩ := (hok ms p hp).2 hdistinct.1
    refine ⟨⟨es, hes, hperm⟩, ?_⟩
    rw [hes]
    exact Value.same_of_perm hperm (complete_distinct hdistinct hf.distinct)
  · refine ⟨fun herror => ?_, h.error_of_refuses hf⟩
    rcases f.accepts_or_refuses d with ⟨ms, rfl, hms, hrequired⟩ | ⟨e', he'⟩
    · obtain ⟨p, hp, -⟩ := h.ok_of_accepts hf hms hrequired
      cases herror.symm.trans hp
    · cases herror.symm.trans (h.error_of_refuses hf he')
      exact he'

end RecordFormat

/-! ## profiles of containers -/

namespace ContainerProfile

/-- The named members of a container document. -/
def format : RecordFormat where
  record := "ContainerProfile"
  named := [("type_name", .text), ("processes", .texts)]
  required := "type_name"
  defaults := [("processes", .array [])]

/-- Identifiers as an array of texts. -/
def idsValue (ids : List Identifier) : Value := .array (ids.map fun id => .string id.text)

theorem asStrings_idsValue (ids : List Identifier) : (idsValue ids).asStrings = .ok (ids.map (·.text)) := by
  have hstrings := Value.asStringList_strings (ids.map (·.text))
  rw [List.map_map] at hstrings
  exact hstrings

theorem typeOf?_eq_some_iff {k : String} {t : MemberType} :
    format.typeOf? k = some t ↔ k = "type_name" ∧ t = .text ∨ k = "processes" ∧ t = .texts := by
  simp only [RecordFormat.typeOf?, format, Keyed.find?]
  by_cases hname : k = "type_name"
  · simp [hname, eq_comm]
  · by_cases hprocesses : k = "processes"
    · simp [hprocesses, eq_comm]
    · simp [hname, hprocesses, Ne.symm hname, Ne.symm hprocesses]

theorem ne_of_other {k : String} (h : format.typeOf? k = none) : k ≠ "type_name" ∧ k ≠ "processes" := by
  constructor
  · rintro rfl
    cases h
  · rintro rfl
    cases h

theorem readMembers_typeName (s : String) (ms : Members) : readMembers (("type_name", .string s) :: ms) =
    (readMembers ms).map fun draft => { draft with typeName := some s } := by
  rw [readMembers, if_pos rfl]
  cases readMembers ms <;> rfl

theorem readMembers_processes (ids : List Identifier) (ms : Members) :
    readMembers (("processes", idsValue ids) :: ms) =
      (readMembers ms).map fun draft => { draft with processes := some ids } := by
  rw [readMembers, if_neg (by decide), if_pos rfl, asStrings_idsValue]
  cases readMembers ms with
  | error e => rfl
  | ok draft => simp [Except.map, bind, Except.bind, pure, Except.pure, Function.comp_def]

theorem readMembers_other {k : String} (h : format.typeOf? k = none) (v : Value) (ms : Members) :
    readMembers ((k, v) :: ms) =
      (readMembers ms).map fun draft => { draft with extra := (k, v) :: draft.extra } := by
  obtain ⟨hname, hprocesses⟩ := ne_of_other h
  rw [readMembers, if_neg hname, if_neg hprocesses]
  cases readMembers ms <;> rfl

/-- What a draft holds under a name. -/
def drafted (draft : ContainerDraft) (k : String) : Option Value :=
  if "type_name" = k then draft.typeName.map .string
  else if "processes" = k then draft.processes.map idsValue
  else none

theorem reads : format.Reads readMembers drafted ContainerDraft.extra where
  nil := ⟨_, rfl, fun k => by simp [drafted], rfl⟩
  named := by
    intro k v t ht hv
    rcases typeOf?_eq_some_iff.1 ht with ⟨rfl, rfl⟩ | ⟨rfl, rfl⟩
    · obtain ⟨s, rfl⟩ := hv
      refine ⟨_, readMembers_typeName s, fun draft => ⟨fun k' => ?_, rfl⟩⟩
      simp only [drafted]
      split <;> rfl
    · obtain ⟨ss, rfl⟩ := hv
      have hids : Value.array (ss.map .string) = idsValue (ss.map Identifier.mk) := by
        simp [idsValue, Function.comp_def]
      rw [hids]
      refine ⟨_, readMembers_processes _, fun draft => ⟨fun k' => ?_, rfl⟩⟩
      simp only [drafted]
      by_cases hname : "type_name" = k'
      · subst hname
        rfl
      · rw [if_neg hname, if_neg hname]
        split <;> rfl
  other k v h := ⟨_, readMembers_other h v, fun draft => ⟨rfl, rfl⟩⟩
  refuses := by
    intro k v t e ht h ms
    rcases typeOf?_eq_some_iff.1 ht with ⟨rfl, rfl⟩ | ⟨rfl, rfl⟩
    · rw [readMembers, if_pos rfl, Value.asString_of_refuses h]
      rfl
    · rw [readMembers, if_neg (by decide), if_pos rfl, Value.asStrings_of_refuses h]
      rfl

theorem decodes : format.Decodes readMembers drafted ContainerDraft.extra ofDocument toDocument extra where
  reads := reads
  noObject := by
    intro d h
    cases d with
    | object ms => exact absurd rfl (h ms)
    | _ => rfl
  unread := by
    intro ms e h
    rw [ofDocument, h]
    rfl
  missing := by
    intro ms draft h hmissing
    obtain ⟨_ | name, processes, extra⟩ := draft
    · rw [ofDocument, h]
      rfl
    · cases hmissing
  made := by
    intro ms draft v h hv
    obtain ⟨_ | name, processes, extra⟩ := draft
    · cases hv
    · refine ⟨⟨name, processes.getD [], extra⟩, by rw [ofDocument, h]; rfl, rfl, ?_⟩
      cases processes <;> rfl

theorem wellFormed : format.WellFormed where
  nodup := by decide
  required := by decide
  defaults := by decide
  distinct := ⟨by decide, trivial, trivial⟩

theorem readMembers_of_others {ms : Members} (h : ∀ k ∈ Keyed.keys ms, format.typeOf? k = none) :
    readMembers ms = .ok ⟨none, none, ms⟩ := by
  induction ms with
  | nil => rfl
  | cons m rest ih =>
    obtain ⟨hm, hrest⟩ := List.forall_mem_cons.1 h
    rw [readMembers_other hm, ih hrest]
    rfl

theorem ofDocument_toDocument (p : ContainerProfile) (h : ∀ k ∈ Keyed.keys p.extra, format.typeOf? k = none) :
    ofDocument p.toDocument = .ok p := by
  show (readMembers (("type_name", .string p.typeName) :: ("processes", idsValue p.processes) :: p.extra) >>= _) = _
  rw [readMembers_typeName, readMembers_processes, readMembers_of_others h]
  rfl

end ContainerProfile

/-! ## profiles of processes -/

namespace ProcessProfile

/-- The named member of a process document. -/
def format : RecordFormat where
  record := "ProcessProfile"
  named := [("type_name", .text)]
  required := "type_name"
  defaults := []

theorem typeOf?_eq_some_iff {k : String} {t : MemberType} :
    format.typeOf? k = some t ↔ k = "type_name" ∧ t = .text := by
  simp only [RecordFormat.typeOf?, format, Keyed.find?]
  by_cases hname : k = "type_name"
  · simp [hname, eq_comm]
  · simp [hname, Ne.symm hname]

theorem readMembers_typeName (s : String) (ms : Members) : readMembers (("type_name", .string s) :: ms) =
    (readMembers ms).map fun draft => { draft with typeName := some s } := by
  rw [readMembers, if_pos rfl]
  cases readMembers ms <;> rfl

theorem readMembers_other {k : String} (h : format.typeOf? k = none) (v : Value) (ms : Members) :
    readMembers ((k, v) :: ms) =
      (readMembers ms).map fun draft => { draft with extra := (k, v) :: draft.extra } := by
  have hname : k ≠ "type_name" := by
    rintro rfl
    cases h
  rw [readMembers, if_neg hname]
  cases readMembers ms <;> rfl

/-- What a draft holds under a name. -/
def drafted (draft : ProcessDraft) (k : String) : Option Value :=
  if "type_name" = k then draft.typeName.map .string else none

theorem reads : format.Reads readMembers drafted ProcessDraft.extra where
  nil := ⟨_, rfl, fun k => by simp [drafted], rfl⟩
  named := by
    intro k v t ht hv
    obtain ⟨rfl, rfl⟩ := typeOf?_eq_some_iff.1 ht
    obtain ⟨s, rfl⟩ := hv
    refine ⟨_, readMembers_typeName s, fun draft => ⟨fun k' => ?_, rfl⟩⟩
    simp only [drafted]
    split <;> rfl
  other k v h := ⟨_, readMembers_other h v, fun draft => ⟨rfl, rfl⟩⟩
  refuses := by
    intro k v t e ht h ms
    obtain ⟨rfl, rfl⟩ := typeOf?_eq_some_iff.1 ht
    rw [readMembers, if_pos rfl, Value.asString_of_refuses h]
    rfl

theorem decodes : format.Decodes readMembers drafted ProcessDraft.extra ofDocument toDocument extra where
  reads := reads
  noObject := by
    intro d h
    cases d with
    | object ms => exact absurd rfl (h ms)
    | _ => rfl
  unread := by
    intro ms e h
    rw [ofDocument, h]
    rfl
  missing := by
    intro ms draft h hmissing
    obtain ⟨_ | name, extra⟩ := draft
    · rw [ofDocument, h]
      rfl
    · cases hmissing
  made := by
    intro ms draft v h hv
    obtain ⟨_ | name, extra⟩ := draft
    · cases hv
    · exact ⟨⟨name, extra⟩, by rw [ofDocument, h]; rfl, rfl, rfl⟩

theorem wellFormed : format.WellFormed where
  nodup := by decide
  required := by decide
  defaults := by decide
  distinct := ⟨List.nodup_nil, trivial⟩

theorem readMembers_of_others {ms : Members} (h : ∀ k ∈ Keyed.keys ms, format.typeOf? k = none) :
    readMembers ms = .ok ⟨none, ms⟩ := by
  induction ms with
  | nil => rfl
  | cons m rest ih =>
    obtain ⟨hm, hrest⟩ := List.forall_mem_cons.1 h
    rw [readMembers_other hm, ih hrest]
    rfl

theorem ofDocument_toDocument (p : ProcessProfile) (h : ∀ k ∈ Keyed.keys p.extra, format.typeOf? k = none) :
    ofDocument p.toDocument = .ok p := by
  show (readMembers (("type_name", .string p.typeName) :: p.extra) >>= _) = _
  rw [readMembers_typeName, readMembers_of_others h]
  rfl

end ProcessProfile

/-- **Decoding and encoding the profiles of containers and processes loses nothing.** -/
theorem profiles_lossless :
    ContainerProfile.format.Lossless ContainerProfile.ofDocument ContainerProfile.toDocument ContainerProfile.extra ∧
    ProcessProfile.format.Lossless ProcessProfile.ofDocument ProcessProfile.toDocument ProcessProfile.extra :=
  ⟨ContainerProfile.decodes.lossless ContainerProfile.wellFormed ContainerProfile.ofDocument_toDocument,
    ProcessProfile.decodes.lossless ProcessProfile.wellFormed ProcessProfile.ofDocument_toDocument⟩

end ProcessGraph
