/-!
# Entries by name

* `Keyed`: entries in the order in which their names first came.
* `Keyed.find?`, `Keyed.insert`, `Keyed.erase`: look-up, replacement and removal. A repeated name
  keeps its first place and takes the last value.
* `Keyed.ofPairs`: the entries of pairs in which names may repeat.

`nodup_keys_ofPairs`: entries made of pairs have each name once. `ofPairs_of_nodup`: pairs with distinct names are
entries as they stand.
`mem_of_find?_ofPairs`, `exists_find?_ofPairs`: they give each name of a pair a value that came with it.
-/

namespace ProcessGraph

/-- Entries by name, in order. -/
abbrev Keyed (κ α : Type) := List (κ × α)

namespace Keyed

variable {κ α : Type} [DecidableEq κ]

/-- The value of an entry. -/
def find? (key : κ) : Keyed κ α → Option α
  | [] => none
  | (k, v) :: rest => if k = key then some v else find? key rest

/-- Sets an entry: in place if the name is there, else at the end. -/
def insert (key : κ) (value : α) : Keyed κ α → Keyed κ α
  | [] => [(key, value)]
  | (k, v) :: rest => if k = key then (k, value) :: rest else (k, v) :: insert key value rest

/-- Sets an entry unless the name is there. -/
def insertNew (key : κ) (value : α) (entries : Keyed κ α) : Keyed κ α :=
  if (find? key entries).isSome then entries else insert key value entries

/-- Removes an entry. -/
def erase (key : κ) (entries : Keyed κ α) : Keyed κ α := entries.filter fun e => e.1 ≠ key

/-- Sets entries one after another. -/
def insertAll (pairs : List (κ × α)) (entries : Keyed κ α) : Keyed κ α :=
  pairs.foldl (fun es (k, v) => insert k v es) entries

/-- The entries of pairs in which names may repeat. -/
def ofPairs (pairs : List (κ × α)) : Keyed κ α := insertAll pairs []

/-- The names, in order. -/
def keys {κ α : Type} (entries : Keyed κ α) : List κ := entries.map Prod.fst

/-! ## the names after an insertion -/

theorem mem_keys_insert {key k : κ} {value : α} {entries : Keyed κ α} :
    k ∈ keys (insert key value entries) ↔ k = key ∨ k ∈ keys entries := by
  induction entries with
  | nil => simp [insert, keys]
  | cons e rest ih =>
    obtain ⟨k', v⟩ := e
    simp only [keys] at ih
    by_cases h : k' = key
    · simp [insert, keys, h]
    · simp only [insert, keys, h, if_false, List.map_cons, List.mem_cons, ih]
      exact or_left_comm

theorem nodup_keys_insert {key : κ} {value : α} {entries : Keyed κ α} (h : (keys entries).Nodup) :
    (keys (insert key value entries)).Nodup := by
  induction entries with
  | nil => simp [insert, keys]
  | cons e rest ih =>
    obtain ⟨k, v⟩ := e
    obtain ⟨hk, hrest⟩ := List.nodup_cons.1 h
    by_cases hkey : k = key
    · simp only [insert, hkey, if_true]
      exact hkey ▸ h
    · simp only [insert, hkey, if_false]
      refine List.nodup_cons.2 ⟨fun hmem => ?_, ih hrest⟩
      rcases mem_keys_insert.1 hmem with heq | hmem
      · exact hkey heq
      · exact hk hmem

theorem nodup_keys_insertAll (pairs : List (κ × α)) {entries : Keyed κ α}
    (h : (keys entries).Nodup) : (keys (insertAll pairs entries)).Nodup := by
  induction pairs generalizing entries with
  | nil => exact h
  | cons p rest ih => exact ih (nodup_keys_insert h)

theorem nodup_keys_ofPairs (pairs : List (κ × α)) : (keys (ofPairs pairs)).Nodup :=
  nodup_keys_insertAll pairs List.nodup_nil

/-! ## distinct names -/

theorem insert_of_not_mem {key : κ} {value : α} {entries : Keyed κ α} (h : key ∉ keys entries) :
    insert key value entries = entries ++ [(key, value)] := by
  induction entries with
  | nil => rfl
  | cons e rest ih =>
    obtain ⟨k, v⟩ := e
    simp only [keys, List.map_cons, List.mem_cons, not_or] at h
    rw [insert, if_neg (Ne.symm h.1), ih h.2, List.cons_append]

theorem insertAll_of_nodup {pairs : List (κ × α)} {entries : Keyed κ α} (h : (keys (entries ++ pairs)).Nodup) :
    insertAll pairs entries = entries ++ pairs := by
  induction pairs generalizing entries with
  | nil => exact (List.append_nil entries).symm
  | cons p rest ih =>
    obtain ⟨k, v⟩ := p
    have hk : k ∉ keys entries := by
      intro hmem
      rw [keys, List.map_append] at h
      exact (List.nodup_append.1 h).2.2 k hmem k (by simp) rfl
    have happend : entries ++ (k, v) :: rest = (entries ++ [(k, v)]) ++ rest := by simp
    rw [happend] at h ⊢
    have hinsert : insertAll ((k, v) :: rest) entries = insertAll rest (insert k v entries) := rfl
    rw [hinsert, insert_of_not_mem hk, ih h]

/-- Pairs with distinct names are entries as they stand. -/
theorem ofPairs_of_nodup {pairs : List (κ × α)} (h : (pairs.map Prod.fst).Nodup) : ofPairs pairs = pairs :=
  insertAll_of_nodup h

/-! ## the value found under a name -/

theorem find?_insert {key k : κ} {value : α} {entries : Keyed κ α} :
    find? k (insert key value entries) = if key = k then some value else find? k entries := by
  induction entries with
  | nil => simp [insert, find?]
  | cons e rest ih =>
    obtain ⟨k', v⟩ := e
    by_cases hkey : k' = key
    · subst hkey
      by_cases hk : k' = k
      · simp [insert, find?, hk]
      · simp [insert, find?, hk]
    · by_cases hk : k' = k
      · subst hk
        simp [insert, find?, hkey, Ne.symm hkey]
      · simp [insert, find?, hkey, hk, ih]

theorem find?_of_not_mem {key : κ} {entries : Keyed κ α} (h : key ∉ keys entries) : find? key entries = none := by
  induction entries with
  | nil => rfl
  | cons e rest ih =>
    obtain ⟨k, v⟩ := e
    simp only [keys, List.map_cons, List.mem_cons, not_or] at h
    rw [find?, if_neg (Ne.symm h.1), ih h.2]

theorem erase_cons {key k : κ} {value : α} {entries : Keyed κ α} :
    erase key ((k, value) :: entries) =
      if k = key then erase key entries else (k, value) :: erase key entries := by
  by_cases h : k = key <;> simp [erase, h]

theorem find?_erase_of_ne {key k : κ} {entries : Keyed κ α} (h : k ≠ key) :
    find? k (erase key entries) = find? k entries := by
  induction entries with
  | nil => rfl
  | cons e rest ih =>
    obtain ⟨k', v⟩ := e
    rw [erase_cons]
    by_cases hkey : k' = key
    · subst hkey
      rw [if_pos rfl, ih, find?, if_neg (Ne.symm h)]
    · rw [if_neg hkey, find?, find?, ih]

theorem mem_of_find?_insertAll {pairs : List (κ × α)} {entries : Keyed κ α} {k : κ} {v : α}
    (h : find? k (insertAll pairs entries) = some v) : (k, v) ∈ pairs ∨ find? k entries = some v := by
  induction pairs generalizing entries with
  | nil => exact .inr h
  | cons p rest ih =>
    obtain ⟨key, value⟩ := p
    rcases ih h with hmem | hfind
    · exact .inl (List.mem_cons_of_mem _ hmem)
    · rw [find?_insert] at hfind
      split at hfind
      · next hkey =>
        cases hfind
        exact .inl (hkey ▸ List.mem_cons_self)
      · exact .inr hfind

theorem exists_find?_insertAll {pairs : List (κ × α)} {entries : Keyed κ α} {k : κ}
    (h : k ∈ pairs.map Prod.fst ∨ ∃ v, find? k entries = some v) :
    ∃ v, find? k (insertAll pairs entries) = some v := by
  induction pairs generalizing entries with
  | nil =>
    rcases h with h | h
    · cases h
    · exact h
  | cons p rest ih =>
    obtain ⟨key, value⟩ := p
    refine ih ?_
    rw [find?_insert]
    by_cases hkey : key = k
    · exact .inr ⟨value, if_pos hkey⟩
    · rcases h with h | h
      · rcases List.mem_cons.1 h with rfl | h
        · exact absurd rfl hkey
        · exact .inl h
      · exact .inr (by rwa [if_neg hkey])

theorem mem_of_find?_ofPairs {pairs : List (κ × α)} {k : κ} {v : α} (h : find? k (ofPairs pairs) = some v) :
    (k, v) ∈ pairs := by
  rcases mem_of_find?_insertAll h with hmem | hfind
  · exact hmem
  · cases hfind

theorem exists_find?_ofPairs {pairs : List (κ × α)} {k : κ} (h : k ∈ pairs.map Prod.fst) :
    ∃ v, find? k (ofPairs pairs) = some v :=
  exists_find?_insertAll (.inl h)

end Keyed

end ProcessGraph
