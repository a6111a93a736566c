import Mathlib.Data.List.Perm.Subperm
import ProcessGraph.Payload

/-!
# Equality of results

* `Value.parts_induction`: induction over a document value by its items and its members.
* `Value.same_trans`: equality of values is transitive. That it is reflexive and symmetric takes values whose
  objects list each key once: `Value.same_self`, `Value.same_symm`.
* `Payload.Distinct`, `Payload.same_self`, `Payload.same_trans`, `Payload.same_symm`: the same for results.
-/

namespace ProcessGraph

/-! ## entries -/

namespace Keyed

variable {κ α : Type} [DecidableEq κ]

theorem mem_of_find? {k : κ} {v : α} {entries : Keyed κ α} (h : find? k entries = some v) :
    (k, v) ∈ entries := by
  induction entries with
  | nil => cases h
  | cons e rest ih =>
    obtain ⟨k', v'⟩ := e
    rw [find?] at h
    split at h
    next hk =>
      cases h
      exact hk ▸ List.mem_cons_self
    next => exact List.mem_cons_of_mem _ (ih h)

theorem find?_of_mem {k : κ} {v : α} {entries : Keyed κ α} (hnodup : (entries.map Prod.fst).Nodup)
    (h : (k, v) ∈ entries) : find? k entries = some v := by
  induction entries with
  | nil => cases h
  | cons e rest ih =>
    obtain ⟨k', v'⟩ := e
    obtain ⟨hk', hrest⟩ := List.nodup_cons.1 hnodup
    rcases List.mem_cons.1 h with heq | hmem
    · cases heq
      exact if_pos rfl
    · have hne : k' ≠ k := by
        rintro rfl
        exact hk' (List.mem_map.2 ⟨_, hmem, rfl⟩)
      rw [find?, if_neg hne, ih hrest hmem]

end Keyed

/-! ## numbers -/

theorem Decimal.Double.same_iff {a b : Double} :
    a.same b = true ↔ a.code = b.code ∧ (a.negative = b.negative ∨ a.code = 0) := by
  simp [same]

namespace Json.Number

theorem same_self (a : Number) : a.same a = true := by
  cases a with
  | integer i _ => simp [same]
  | real x => simp [same, Decimal.Double.same_iff]

theorem same_symm {a b : Number} (h : a.same b = true) : b.same a = true := by
  cases a with
  | integer i _ =>
    cases b with
    | integer j _ =>
      have hij : i = j := by simpa [same] using h
      simp [same, hij]
    | real y => cases h
  | real x =>
    cases b with
    | integer j _ => cases h
    | real y =>
      obtain ⟨hcode, hsign⟩ := Decimal.Double.same_iff.1 h
      refine Decimal.Double.same_iff.2 ⟨hcode.symm, ?_⟩
      rw [← hcode]
      exact hsign.imp_left Eq.symm

theorem same_trans {a b c : Number} (hab : a.same b = true) (hbc : b.same c = true) : a.same c = true := by
  cases a with
  | integer i _ =>
    cases b with
    | integer j _ =>
      have hij : i = j := by simpa [same] using hab
      cases c with
      | integer k _ => simpa [same, hij] using hbc
      | real z => cases hbc
    | real y => cases hab
  | real x =>
    cases b with
    | integer j _ => cases hab
    | real y =>
      cases c with
      | integer k _ => cases hbc
      | real z =>
        obtain ⟨hxy, hsign⟩ := Decimal.Double.same_iff.1 hab
        obtain ⟨hyz, hsign'⟩ := Decimal.Double.same_iff.1 hbc
        refine Decimal.Double.same_iff.2 ⟨hxy.trans hyz, ?_⟩
        rcases hsign with hsign | hzero
        · rw [hsign, hxy]
          exact hsign'
        · exact .inr hzero

end Json.Number

/-! ## values -/

namespace Json.Value

section Induction

variable {P : Value → Prop} (null : P null) (bool : ∀ b, P (bool b)) (number : ∀ n, P (number n))
  (string : ∀ s, P (string s)) (array : ∀ items, (∀ v ∈ items, P v) → P (array items))
  (object : ∀ ms, (∀ k v, (k, v) ∈ ms → P v) → P (object ms))

include null bool number string array object

-- the linter does not see that the theorems pass these on to each other
set_option linter.unusedSectionVars false

mutual

/-- Induction over a value, by the items of an array and the values of an object. -/
@[elab_as_elim]
theorem parts_induction (v : Value) : P v :=
  match v with
  | .null => null
  | .bool b => bool b
  | .number n => number n
  | .string s => string s
  | .array items => array items (items_induction items)
  | .object ms => object ms (members_induction ms)

theorem items_induction (items : List Value) : ∀ v ∈ items, P v :=
  match items with
  | [] => fun _ h => nomatch h
  | x :: xs => List.forall_mem_cons.2 ⟨parts_induction x, items_induction xs⟩

theorem members_induction (ms : List (String × Value)) : ∀ k v, (k, v) ∈ ms → P v :=
  match ms with
  | [] => fun _ _ h => nomatch h
  | (k, x) :: rest => by
    intro k' v h
    rcases List.mem_cons.1 h with heq | hmem
    · cases heq
      exact parts_induction x
    · exact members_induction rest k' v hmem

end

end Induction

theorem sameMembers_iff {xs ys : List (String × Value)} :
    sameMembers xs ys = true ↔ ∀ k v, (k, v) ∈ xs → ∃ v', Keyed.find? k ys = some v' ∧ same v v' = true := by
  induction xs with
  | nil => simp [sameMembers]
  | cons x rest ih =>
    obtain ⟨k, v⟩ := x
    cases hfind : Keyed.find? k ys with
    | none =>
      simp only [sameMembers, hfind, Bool.false_and, Bool.false_eq_true, false_iff]
      intro h
      obtain ⟨v', hv', -⟩ := h k v List.mem_cons_self
      rw [hfind] at hv'
      cases hv'
    | some v' =>
      simp only [sameMembers, hfind, Bool.and_eq_true, ih]
      constructor
      · rintro ⟨hv, hrest⟩ k' u h
        rcases List.mem_cons.1 h with heq | hmem
        · cases heq
          exact ⟨v', hfind, hv⟩
        · exact hrest k' u hmem
      · intro h
        obtain ⟨u, hu, hv⟩ := h k v List.mem_cons_self
        rw [hfind] at hu
        cases hu
        exact ⟨hv, fun k' u' hmem => h k' u' (List.mem_cons_of_mem _ hmem)⟩

theorem Distinct.of_mem_items {items : List Value} (h : DistinctItems items) {v : Value} (hv : v ∈ items) :
    v.Distinct := by
  induction items with
  | nil => cases hv
  | cons x rest ih =>
    rcases List.mem_cons.1 hv with rfl | hv
    · exact h.1
    · exact ih h.2 hv

theorem Distinct.of_mem_members {ms : List (String × Value)} (h : DistinctMembers ms) {k : String} {v : Value}
    (hv : (k, v) ∈ ms) : v.Distinct := by
  induction ms with
  | nil => cases hv
  | cons m rest ih =>
    rcases List.mem_cons.1 hv with rfl | hv
    · exact h.1
    · exact ih h.2 hv

/-- A value is equal to itself if it lists each key once. -/
theorem same_self (a : Value) (h : a.Distinct) : a.same a = true := by
  induction a using parts_induction with
  | null => rfl
  | bool b => simp [same]
  | number n => exact n.same_self
  | string s => simp [same]
  | array xs ih =>
    rw [same]
    rw [Distinct] at h
    induction xs with
    | nil => rfl
    | cons x rest ihrest =>
      rw [sameItems, Bool.and_eq_true]
      exact ⟨ih x List.mem_cons_self h.1, ihrest (fun v hv => ih v (List.mem_cons_of_mem _ hv)) h.2⟩
  | object ms ih =>
    rw [Distinct] at h
    rw [same, beq_self_eq_true, Bool.true_and]
    refine sameMembers_iff.2 fun k v hv => ?_
    exact ⟨v, Keyed.find?_of_mem h.1 hv, ih k v hv (.of_mem_members h.2 hv)⟩

theorem sameItems_trans {xs ys zs : List Value}
    (ih : ∀ v ∈ xs, ∀ b c, same v b = true → same b c = true → same v c = true)
    (hxy : sameItems xs ys = true) (hyz : sameItems ys zs = true) : sameItems xs zs = true := by
  induction xs generalizing ys zs with
  | nil =>
    cases ys with
    | nil => exact hyz
    | cons y ys => cases hxy
  | cons x xs ihxs =>
    cases ys with
    | nil => cases hxy
    | cons y ys =>
      cases zs with
      | nil => cases hyz
      | cons z zs =>
        rw [sameItems, Bool.and_eq_true] at hxy hyz ⊢
        exact ⟨ih x List.mem_cons_self y z hxy.1 hyz.1,
          ihxs (fun v hv => ih v (List.mem_cons_of_mem _ hv)) hxy.2 hyz.2⟩

/-- **Equality of values is transitive.** -/
theorem same_trans {a b c : Value} (hab : a.same b = true) (hbc : b.same c = true) : a.same c = true := by
  induction a using parts_induction generalizing b c with
  | null => cases b <;> first | exact hbc | cases hab
  | bool x =>
    cases b with
    | bool y =>
      have hxy : x = y := by simpa [same] using hab
      exact hxy ▸ hbc
    | _ => cases hab
  | number x =>
    cases b with
    | number y =>
      cases c with
      | number z => exact Number.same_trans hab hbc
      | _ => cases hbc
    | _ => cases hab
  | string x =>
    cases b with
    | string y =>
      have hxy : x = y := by simpa [same] using hab
      exact hxy ▸ hbc
    | _ => cases hab
  | array xs ih =>
    cases b with
    | array ys =>
      cases c with
      | array zs => exact sameItems_trans (fun v hv _ _ => ih v hv) hab hbc
      | _ => cases hbc
    | _ => cases hab
  | object xs ih =>
    cases b with
    | object ys =>
      cases c with
      | object zs =>
        rw [same, Bool.and_eq_true, beq_iff_eq] at hab hbc ⊢
        refine ⟨hab.1.trans hbc.1, sameMembers_iff.2 fun k v hv => ?_⟩
        obtain ⟨v', hv', hsame⟩ := sameMembers_iff.1 hab.2 k v hv
        obtain ⟨v'', hv'', hsame'⟩ := sameMembers_iff.1 hbc.2 k v' (Keyed.mem_of_find? hv')
        exact ⟨v'', hv'', ih k v hv hsame hsame'⟩
      | _ => cases hbc
    | _ => cases hab

theorem sameItems_symm {xs ys : List Value} (hys : DistinctItems ys)
    (ih : ∀ v ∈ xs, ∀ b : Value, b.Distinct → same v b = true → same b v = true)
    (h : sameItems xs ys = true) : sameItems ys xs = true := by
  induction xs generalizing ys with
  | nil =>
    cases ys with
    | nil => rfl
    | cons y ys => cases h
  | cons x xs ihxs =>
    cases ys with
    | nil => cases h
    | cons y ys =>
      rw [sameItems, Bool.and_eq_true] at h ⊢
      exact ⟨ih x List.mem_cons_self y hys.1 h.1,
        ihxs hys.2 (fun v hv => ih v (List.mem_cons_of_mem _ hv)) h.2⟩

/-- Members that are all found among as many others include all of those. -/
theorem mem_keys_of_sameMembers {xs ys : List (String × Value)} (hxs : (xs.map Prod.fst).Nodup)
    (hlength : xs.length = ys.length) (h : sameMembers xs ys = true) {k : String} (hk : k ∈ ys.map Prod.fst) :
    k ∈ xs.map Prod.fst := by
  have hsubset : xs.map Prod.fst ⊆ ys.map Prod.fst := by
    intro k' hk'
    obtain ⟨⟨_, v⟩, hmem, rfl⟩ := List.mem_map.1 hk'
    obtain ⟨v', hv', -⟩ := sameMembers_iff.1 h _ v hmem
    exact List.mem_map.2 ⟨_, Keyed.mem_of_find? hv', rfl⟩
  have hperm := (List.subperm_of_subset hxs hsubset).perm_of_length_le (by simp [hlength])
  exact hperm.mem_iff.2 hk

/-- **Equality of values is symmetric** if they list each key once. -/
theorem same_symm {a b : Value} (ha : a.Distinct) (hb : b.Distinct) (h : a.same b = true) : b.same a = true := by
  induction a using parts_induction generalizing b with
  | null => cases b <;> first | rfl | cases h
  | bool x =>
    cases b with
    | bool y =>
      have hxy : x = y := by simpa [same] using h
      simp [same, hxy]
    | _ => cases h
  | number x =>
    cases b with
    | number y => exact Number.same_symm h
    | _ => cases h
  | string x =>
    cases b with
    | string y =>
      have hxy : x = y := by simpa [same] using h
      simp [same, hxy]
    | _ => cases h
  | array xs ih =>
    cases b with
    | array ys =>
      exact sameItems_symm hb (fun v hv _ hw => ih v hv (.of_mem_items ha hv) hw) h
    | _ => cases h
  | object xs ih =>
    cases b with
    | object ys =>
      rw [Distinct] at ha hb
      rw [same, Bool.and_eq_true, beq_iff_eq] at h ⊢
      refine ⟨h.1.symm, sameMembers_iff.2 fun k v' hv' => ?_⟩
      have hk := mem_keys_of_sameMembers ha.1 h.1 h.2 (List.mem_map_of_mem hv')
      obtain ⟨⟨_, v⟩, hv, rfl⟩ := List.mem_map.1 hk
      -- the member of the first object is compared with the one of the second that has its key
      obtain ⟨u, hu, hsame⟩ := sameMembers_iff.1 h.2 _ v hv
      have huv : u = v' := Option.some.inj (hu.symm.trans (Keyed.find?_of_mem hb.1 hv'))
      subst huv
      exact ⟨v, Keyed.find?_of_mem ha.1 hv,
        ih _ v hv (.of_mem_members ha.2 hv) (.of_mem_members hb.2 hv') hsame⟩
    | _ => cases h

end Json.Value

/-! ## results -/

namespace Payload

/-- Every object in the document of the result lists each key once. -/
def Distinct : Payload → Prop
  | json v => v.Distinct
  | binary _ _ => True

theorem same_self {p : Payload} (h : p.Distinct) : p.same p = true := by
  cases p with
  | json v => exact v.same_self h
  | binary contentType bytes => simp [same]

theorem same_trans {p q r : Payload} (hpq : p.same q = true) (hqr : q.same r = true) : p.same r = true := by
  cases p with
  | json a =>
    cases q with
    | json b =>
      cases r with
      | json c => exact Json.Value.same_trans hpq hqr
      | binary _ _ => cases hqr
    | binary _ _ => cases hpq
  | binary t a =>
    cases q with
    | json b => cases hpq
    | binary t' b =>
      have heq : t = t' ∧ a = b := by simpa [same] using hpq
      obtain ⟨rfl, rfl⟩ := heq
      exact hqr

theorem same_symm {p q : Payload} (hp : p.Distinct) (hq : q.Distinct) (h : p.same q = true) :
    q.same p = true := by
  cases p with
  | json a =>
    cases q with
    | json b => exact Json.Value.same_symm hp hq h
    | binary _ _ => cases h
  | binary t a =>
    cases q with
    | json b => cases h
    | binary t' b =>
      have heq : t = t' ∧ a = b := by simpa [same] using h
      obtain ⟨rfl, rfl⟩ := heq
      exact h

end Payload

end ProcessGraph
