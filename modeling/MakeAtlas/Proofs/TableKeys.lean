import MakeAtlas.Table
import Mathlib.Data.List.Perm.Subperm

/-!
# Keys and entries of tables

A table that is filled by `put` has every key once, so its entries and its look-up say the same.

## Key results

- `nodup_keys_ofList`: a filled table has every key once
- `get?_eq_some_iff_mem`: in such a table, what is found under a key is the key's entry
- `put_of_not_mem`: an entry under a new key comes last
- `get?_putAll`: what a table holds after several entries
- `put_map_keys`: in a table that follows from its keys, an entry changes one value
- `ofList_eq_self`: a list in which every key stands once is the table it fills
- `length_ofList_eq_iff`: nothing is lost in filling a table exactly if no key is repeated
- `map_ofList`: changing the values after filling a table or before is the same
-/

namespace MakeAtlas.Table

variable {α β : Type}

/-- The keys after an entry are the ones before it and the entry's. -/
theorem mem_keys_put {table : Table α} {key other : String} {value : α} :
    other ∈ (table.put key value).keys ↔ other = key ∨ other ∈ table.keys := by
  by_cases h : key ∈ table.keys
  · rw [keys_put_of_mem h]
    constructor
    · exact Or.inr
    · intro h
      rcases h with rfl | ho
      · exact h
      · exact ho
  · rw [keys_put_of_not_mem h, List.mem_append, List.mem_singleton, or_comm]

/-- An entry keeps every key single. -/
theorem nodup_keys_put {table : Table α} (h : table.keys.Nodup) (key : String) (value : α) :
    (table.put key value).keys.Nodup := by
  by_cases hk : key ∈ table.keys
  · rwa [keys_put_of_mem hk]
  · rw [keys_put_of_not_mem hk, List.nodup_append]
    refine ⟨h, by simp, ?_⟩
    rintro a ha b hb rfl
    exact hk (List.mem_singleton.1 hb ▸ ha)

/-- A filled table has every key once. -/
theorem nodup_keys_ofList (entries : List (String × α)) : (ofList entries).keys.Nodup := by
  suffices ∀ table : Table α, table.keys.Nodup → (putAll table entries).keys.Nodup from
    this [] (by simp [keys])
  induction entries with
  | nil => exact fun _ h => h
  | cons entry rest ih => exact fun table h => ih _ (nodup_keys_put h entry.1 entry.2)

/-- A filled table has the keys that it was filled with. -/
theorem mem_keys_ofList {entries : List (String × α)} {key : String} :
    key ∈ (ofList entries).keys ↔ ∃ entry ∈ entries, entry.1 = key := by
  suffices ∀ table : Table α, key ∈ (putAll table entries).keys ↔
      key ∈ table.keys ∨ ∃ entry ∈ entries, entry.1 = key from
    (this []).trans (or_iff_right List.not_mem_nil)
  induction entries with
  | nil => simp [putAll]
  | cons first rest ih =>
    intro table
    have hput : key ∈ (table.put first.1 first.2).keys ↔ key ∈ table.keys ∨ first.1 = key := by
      rw [mem_keys_put, or_comm, eq_comm]
    rw [putAll, List.foldl_cons, ← putAll, ih, hput, or_assoc]
    simp only [List.mem_cons, or_and_right, exists_or, exists_eq_left]

/-- Whatever is in a table after an entry was there before, or is that entry. -/
theorem mem_of_mem_put {table : Table α} {key : String} {value : α} {entry : String × α}
    (h : entry ∈ table.put key value) : entry = (key, value) ∨ entry ∈ table := by
  induction table with
  | nil => exact Or.inl (List.mem_singleton.1 h)
  | cons first rest ih =>
    obtain ⟨k, v⟩ := first
    by_cases hk : k = key
    · rw [put, if_pos hk, List.mem_cons] at h
      rcases h with rfl | h
      · exact Or.inl (by rw [hk])
      · exact Or.inr (List.mem_cons_of_mem _ h)
    · rw [put, if_neg hk, List.mem_cons] at h
      rcases h with rfl | h
      · exact Or.inr List.mem_cons_self
      · exact (ih h).imp id (List.mem_cons_of_mem _)

/-- A filled table holds nothing but what it was filled with. -/
theorem mem_of_mem_ofList {entries : List (String × α)} {entry : String × α}
    (h : entry ∈ ofList entries) : entry ∈ entries := by
  suffices ∀ table : Table α, entry ∈ putAll table entries → entry ∈ table ∨ entry ∈ entries by
    simpa using this [] h
  clear h
  induction entries with
  | nil => exact fun _ h => Or.inl h
  | cons first rest ih =>
    intro table h
    rcases ih _ h with h | h
    · rcases mem_of_mem_put h with rfl | h
      · exact Or.inr List.mem_cons_self
      · exact Or.inl h
    · exact Or.inr (List.mem_cons_of_mem _ h)

/-- What is found under a key is an entry. -/
theorem mem_of_get? {table : Table α} {key : String} {value : α}
    (h : table.get? key = some value) : (key, value) ∈ table := by
  induction table with
  | nil => cases h
  | cons first rest ih =>
    obtain ⟨k, v⟩ := first
    rw [get?] at h
    split at h
    · rename_i hk
      cases h
      exact hk ▸ List.mem_cons_self
    · exact List.mem_cons_of_mem _ (ih h)

/-- A table has a value under each of its keys. -/
theorem exists_get?_of_mem_keys {table : Table α} {key : String} (h : key ∈ table.keys) :
    ∃ value, table.get? key = some value := by
  induction table with
  | nil => exact nomatch h
  | cons first rest ih =>
    obtain ⟨k, v⟩ := first
    rw [get?]
    by_cases hk : k = key
    · exact ⟨v, if_pos hk⟩
    · rw [if_neg hk]
      apply ih
      simpa [keys, Ne.symm hk] using h

/-- In a table that has every key once, what is found under a key is the key's entry. -/
theorem get?_eq_some_iff_mem {table : Table α} (h : table.keys.Nodup) {key : String} {value : α} :
    table.get? key = some value ↔ (key, value) ∈ table := by
  refine ⟨mem_of_get?, fun hmem => ?_⟩
  induction table with
  | nil => cases hmem
  | cons first rest ih =>
    obtain ⟨k, v⟩ := first
    rw [keys, List.map_cons, List.nodup_cons] at h
    rw [List.mem_cons, Prod.mk.injEq] at hmem
    rcases hmem with ⟨rfl, rfl⟩ | hmem
    · rw [get?, if_pos rfl]
    · have hkey : key ∈ keys rest := List.mem_map_of_mem hmem
      have hne : k ≠ key := fun hk => h.1 (hk ▸ hkey)
      rw [get?, if_neg hne]
      exact ih h.2 hmem

/-- An entry under a new key comes last. -/
theorem put_of_not_mem {table : Table α} {key : String} (h : key ∉ table.keys) (value : α) :
    table.put key value = table ++ [(key, value)] := by
  induction table with
  | nil => rfl
  | cons first rest ih =>
    obtain ⟨k, v⟩ := first
    rw [keys, List.map_cons, List.mem_cons, not_or] at h
    rw [put, if_neg (Ne.symm h.1), ih h.2, List.cons_append]

/-- A list in which every key stands once is the table it fills. -/
theorem ofList_eq_self {entries : Table α} (h : entries.keys.Nodup) : ofList entries = entries := by
  suffices ∀ table : Table α, (table ++ entries).keys.Nodup →
      putAll table entries = table ++ entries from this [] h
  clear h
  induction entries with
  | nil => exact fun table _ => (List.append_nil table).symm
  | cons first rest ih =>
    intro table h
    have hsplit : table ++ first :: rest = table ++ [first] ++ rest := by simp
    have hnew : first.1 ∉ table.keys := by
      rw [keys, List.map_append, List.nodup_append] at h
      exact fun hmem => h.2.2 first.1 hmem first.1 (by simp) rfl
    rw [putAll, List.foldl_cons, put_of_not_mem hnew, hsplit]
    exact ih _ (hsplit ▸ h)

/-- A filled table has an entry for everything it was filled with exactly if no key was repeated. -/
theorem length_ofList_eq_iff {entries : List (String × α)} :
    (ofList entries).length = entries.length ↔ (entries.map Prod.fst).Nodup := by
  constructor
  · intro hlength
    have hsubset : (ofList entries).keys ⊆ entries.map Prod.fst := by
      intro key hkey
      obtain ⟨entry, hentry, rfl⟩ := mem_keys_ofList.1 hkey
      exact List.mem_map_of_mem hentry
    have hsame := (nodup_keys_ofList entries).subperm hsubset
    have hkeys : (entries.map Prod.fst).length = (ofList entries).keys.length := by
      rw [keys, List.length_map, List.length_map, hlength]
    exact (hsame.perm_of_length_le (Nat.le_of_eq hkeys)).nodup_iff.1 (nodup_keys_ofList entries)
  · intro hnodup
    rw [ofList_eq_self hnodup]

/-- Its values, one way or another, are those it was filled with exactly if no key was repeated. -/
theorem map_values_ofList_eq_iff (f : α → β) {entries : List (String × α)} :
    (ofList entries).values.map f = (entries.map Prod.snd).map f ↔
      (entries.map Prod.fst).Nodup := by
  constructor
  · intro heq
    have hlength := congrArg List.length heq
    rw [values, List.length_map, List.length_map, List.length_map, List.length_map] at hlength
    exact length_ofList_eq_iff.1 hlength
  · intro hnodup
    rw [ofList_eq_self hnodup, values]

/-- Entries under known keys leave the keys as they are. -/
theorem keys_putAll_of_mem {entries : List (String × α)} {table : Table α}
    (h : ∀ entry ∈ entries, entry.1 ∈ table.keys) : (table.putAll entries).keys = table.keys := by
  induction entries generalizing table with
  | nil => rfl
  | cons first rest ih =>
    rw [List.forall_mem_cons] at h
    have hkeys := keys_put_of_mem h.1 first.2
    rw [putAll, List.foldl_cons, ← putAll, ih (hkeys ▸ h.2), hkeys]

/-- Entries with different keys are what is found under their keys; under all other keys there is
    what was there before. -/
theorem get?_putAll {entries : Table α} (h : entries.keys.Nodup) (table : Table α) (key : String) :
    (table.putAll entries).get? key = (entries.get? key).or (table.get? key) := by
  induction entries generalizing table with
  | nil => rfl
  | cons first rest ih =>
    obtain ⟨k, v⟩ := first
    rw [keys, List.map_cons, List.nodup_cons] at h
    rw [putAll, List.foldl_cons, ← putAll, ih h.2, get?_put, get?]
    by_cases hk : k = key
    · subst hk
      have hrest : get? rest k = none := by
        rw [Option.eq_none_iff_forall_ne_some]
        intro other hother
        have hmem : k ∈ keys rest := List.mem_map_of_mem (mem_of_get? hother)
        exact h.1 hmem
      rw [if_pos rfl, if_pos rfl, hrest]
      rfl
    · rw [if_neg hk, if_neg hk]

/-- In a table whose values follow from its keys, an entry under one of the keys changes the value
    of that key. -/
theorem put_map_keys {names : List String} (h : names.Nodup) (f : String → α) {key : String}
    (hkey : key ∈ names) (value : α) :
    put (names.map fun name => (name, f name)) key value =
      names.map fun name => (name, if name = key then value else f name) := by
  induction names with
  | nil => cases hkey
  | cons name names ih =>
    rw [List.nodup_cons] at h
    rw [List.map_cons, List.map_cons, put]
    by_cases hname : name = key
    · subst hname
      have hrest : ∀ other ∈ names, f other = if other = name then value else f other := by
        intro other hother
        have hne : other ≠ name := fun he => h.1 (he ▸ hother)
        rw [if_neg hne]
      rw [if_pos rfl, if_pos rfl]
      congr 1
      exact List.map_congr_left fun other hother => congrArg (Prod.mk other) (hrest other hother)
    · rw [if_neg hname, if_neg hname, ih h.2 ((List.mem_cons.1 hkey).resolve_left (Ne.symm hname))]

/-- Where values follow from keys, what is found under a key follows from it. -/
theorem get?_map_keys {names : List String} (f : String → α) {key : String} (hkey : key ∈ names) :
    get? (names.map fun name => (name, f name)) key = some (f key) := by
  induction names with
  | nil => cases hkey
  | cons name names ih =>
    rw [List.map_cons, get?]
    by_cases hname : name = key
    · rw [if_pos hname, hname]
    · rw [if_neg hname, ih ((List.mem_cons.1 hkey).resolve_left (Ne.symm hname))]

/-- Changing all values changes what is found under a key. -/
theorem get?_map (f : α → β) (table : Table α) (key : String) :
    get? (table.map fun entry => (entry.1, f entry.2)) key = (table.get? key).map f := by
  induction table with
  | nil => rfl
  | cons first rest ih =>
    obtain ⟨k, v⟩ := first
    by_cases hk : k = key
    · simp [get?, hk]
    · simp [get?, hk, ih]

/-- What is found in two tables put one behind the other is found in the first one that has it. -/
theorem get?_append (first second : Table α) (key : String) :
    get? (first ++ second) key = (first.get? key).or (second.get? key) := by
  induction first with
  | nil => rfl
  | cons entry rest ih =>
    obtain ⟨k, v⟩ := entry
    by_cases hk : k = key
    · simp [get?, hk]
    · simp [get?, hk, ih]

/-- Changing the values after an entry or before it is the same. -/
theorem map_put (f : α → β) (table : Table α) (key : String) (value : α) :
    (table.put key value).map (fun entry => (entry.1, f entry.2)) =
      put (table.map fun entry => (entry.1, f entry.2)) key (f value) := by
  induction table with
  | nil => rfl
  | cons first rest ih =>
    obtain ⟨k, v⟩ := first
    by_cases hk : k = key
    · simp [put, hk]
    · simp [put, hk, ih]

/-- Changing the values after filling a table or before is the same. -/
theorem map_ofList (f : α → β) (entries : List (String × α)) :
    (ofList entries).map (fun entry => (entry.1, f entry.2)) =
      ofList (entries.map fun entry => (entry.1, f entry.2)) := by
  suffices ∀ table : Table α, (putAll table entries).map (fun entry => (entry.1, f entry.2)) =
      putAll (table.map fun entry => (entry.1, f entry.2))
        (entries.map fun entry => (entry.1, f entry.2)) from this []
  induction entries with
  | nil => exact fun _ => rfl
  | cons first rest ih =>
    intro table
    rw [putAll, List.foldl_cons, List.map_cons, putAll, List.foldl_cons, ← map_put]
    exact ih _

end MakeAtlas.Table
