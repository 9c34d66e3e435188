/-!
# Tables

A table is a list of keys with values in which each key keeps the place of its first entry and the
value of its last.

* `get?_put`              what a table holds after an entry
* `keys_put_of_mem`       an entry under a known key moves nothing
* `keys_put_of_not_mem`   an entry under a new key comes last
-/

namespace MakeAtlas

/-- Keys with values, in the order in which the keys were first entered. -/
abbrev Table (α : Type) := List (String × α)

namespace Table

variable {α : Type}

/-- The value under a key. -/
def get? : Table α → String → Option α
  | [], _ => none
  | (k, v) :: rest, key => if k = key then some v else get? rest key

/-- Whether a key has a value. -/
def has (table : Table α) (key : String) : Bool :=
  table.any fun entry => entry.1 == key

/-- Enters a value: in place of the one under the same key, or else at the end. -/
def put : Table α → String → α → Table α
  | [], key, value => [(key, value)]
  | (k, v) :: rest, key, value =>
    if k = key then (k, value) :: rest else (k, v) :: put rest key value

/-- The keys in order. -/
def keys (table : Table α) : List String :=
  table.map Prod.fst

/-- The values in the order of their keys. -/
def values (table : Table α) : List α :=
  table.map Prod.snd

/-- Enters all entries of a list, from left to right. -/
def putAll (table : Table α) (entries : List (String × α)) : Table α :=
  entries.foldl (fun table entry => table.put entry.1 entry.2) table

/-- The table of a list of entries in which a key may be repeated. -/
def ofList (entries : List (String × α)) : Table α :=
  putAll [] entries

/-- The table without a key. -/
def erase (table : Table α) (key : String) : Table α :=
  table.filter fun entry => entry.1 != key

theorem has_eq_true_iff {table : Table α} {key : String} :
    table.has key = true ↔ key ∈ table.keys := by
  simp [has, keys, List.any_eq_true]

theorem get?_put (table : Table α) (key other : String) (value : α) :
    (table.put key value).get? other = if key = other then some value else table.get? other := by
  induction table with
  | nil => rfl
  | cons entry rest ih =>
    obtain ⟨k, v⟩ := entry
    by_cases hk : k = key
    -- The entry is the first one
    · subst hk
      by_cases ho : k = other <;> simp [put, get?, ho]
    -- The entry is further on
    · by_cases ho : k = other
      · subst ho
        simp [put, get?, hk, Ne.symm hk]
      · simp [put, get?, hk, ho, ih]

theorem keys_put_of_mem {table : Table α} {key : String} (h : key ∈ table.keys) (value : α) :
    (table.put key value).keys = table.keys := by
  induction table with
  | nil => simp [keys] at h
  | cons entry rest ih =>
    obtain ⟨k, v⟩ := entry
    by_cases hk : k = key
    · simp [put, keys, hk]
    · have hrest : key ∈ keys rest := by
        simpa [keys, Ne.symm hk] using h
      simpa [put, keys, hk] using ih hrest

theorem keys_put_of_not_mem {table : Table α} {key : String} (h : key ∉ table.keys) (value : α) :
    (table.put key value).keys = table.keys ++ [key] := by
  induction table with
  | nil => simp [put, keys]
  | cons entry rest ih =>
    obtain ⟨k, v⟩ := entry
    simp only [keys, List.map_cons, List.mem_cons, not_or] at h
    simpa [put, keys, Ne.symm h.1] using ih h.2

end Table

end MakeAtlas
