import MakeAtlas.Proofs.DistinctBlocks
import MakeAtlas.Proofs.TableKeys
import Mathlib.Data.List.Induction

/-!
# Tables updated by tables

Entering all entries of a table is the same as entering what the table was filled with: an entry
that was overwritten there would have been overwritten here, too.

## Key results

- `put_putAll`: an entry under a known key may be made before others
- `putAll_ofList`: updating a table by a filled one
- `keys_ofList`: the keys of a filled table are in the order of their first entries
- `get?_ofList_eq_some_iff`: the value under a key is that of its last entry
-/

namespace MakeAtlas.Table

variable {α : Type}

/-- A value that is overwritten at once leaves no trace. -/
theorem put_put_self (table : Table α) (key : String) (value value' : α) :
    (table.put key value).put key value' = table.put key value' := by
  induction table with
  | nil => simp [put]
  | cons entry rest ih =>
    obtain ⟨k, v⟩ := entry
    by_cases hk : k = key
    · simp [put, hk]
    · simp [put, hk, ih]

/-- An entry under a known key may be made before or after one under another key. -/
theorem put_comm_of_mem {table : Table α} {key other : String} (h : key ∈ table.keys)
    (hne : key ≠ other) (value value' : α) :
    (table.put other value').put key value = (table.put key value).put other value' := by
  induction table with
  | nil => cases h
  | cons entry rest ih =>
    obtain ⟨k, v⟩ := entry
    by_cases hk : k = key
    · subst hk
      simp [put, hne]
    · have hrest : key ∈ keys rest := by
        simpa [keys, Ne.symm hk] using h
      by_cases ho : k = other
      · subst ho
        simp [put, hk]
      · simp [put, hk, ho, ih hrest]

/-- An entry under a known key may be made before entries under other keys. -/
theorem put_putAll {entries : List (String × α)} {table : Table α} {key : String}
    (h : key ∈ table.keys) (hnew : ∀ entry ∈ entries, entry.1 ≠ key) (value : α) :
    (table.putAll entries).put key value = (table.put key value).putAll entries := by
  induction entries generalizing table with
  | nil => rfl
  | cons first rest ih =>
    rw [List.forall_mem_cons] at hnew
    have hknown : key ∈ (table.put first.1 first.2).keys := mem_keys_put.2 (Or.inr h)
    rw [putAll, List.foldl_cons, ← putAll, ih hknown hnew.2,
      put_comm_of_mem h (Ne.symm hnew.1)]
    rfl

/-- An entry may be made in an update, or after it. -/
theorem putAll_put {update : Table α} (h : update.keys.Nodup) (table : Table α) (key : String)
    (value : α) :
    table.putAll (update.put key value) = (table.putAll update).put key value := by
  induction update generalizing table with
  | nil => rfl
  | cons first rest ih =>
    obtain ⟨k, v⟩ := first
    rw [keys, List.map_cons, List.nodup_cons] at h
    by_cases hk : k = key
    · subst hk
      have hknown : k ∈ (table.put k v).keys := mem_keys_put.2 (Or.inl rfl)
      have hnew : ∀ entry ∈ rest, entry.1 ≠ k := fun entry hentry hkey =>
        h.1 (List.mem_map.2 ⟨entry, hentry, hkey⟩)
      calc table.putAll (put ((k, v) :: rest) k value)
          = (table.put k value).putAll rest := by rw [put, if_pos rfl]; rfl
        _ = ((table.put k v).put k value).putAll rest := by rw [put_put_self]
        _ = ((table.put k v).putAll rest).put k value := (put_putAll hknown hnew value).symm
    · calc table.putAll (put ((k, v) :: rest) key value)
          = (table.put k v).putAll (put rest key value) := by rw [put, if_neg hk]; rfl
        _ = ((table.put k v).putAll rest).put key value := ih h.2 _

theorem putAll_concat (table : Table α) (entries : List (String × α)) (last : String × α) :
    table.putAll (entries ++ [last]) = (table.putAll entries).put last.1 last.2 :=
  List.foldl_concat _ _ _ _

theorem ofList_concat (entries : List (String × α)) (last : String × α) :
    ofList (entries ++ [last]) = (ofList entries).put last.1 last.2 :=
  putAll_concat _ entries last

/-- Updating a table by a filled one enters what that one was filled with. -/
theorem putAll_ofList (table : Table α) (entries : List (String × α)) :
    table.putAll (ofList entries) = table.putAll entries := by
  -- Induction on the entries from their end, where the filled table grows
  induction entries using List.reverseRecOn with
  | nil => rfl
  | append_singleton entries last ih =>
    rw [ofList_concat, putAll_put (nodup_keys_ofList entries), ih, putAll_concat]

theorem ofList_append (first second : List (String × α)) :
    ofList (first ++ second) = (ofList first).putAll (ofList second) := by
  rw [putAll_ofList]
  exact List.foldl_append

/-- The keys of a filled table are in the order of their first entries. -/
theorem keys_ofList (entries : List (String × α)) :
    (ofList entries).keys = (distinctBy Prod.fst entries).map Prod.fst := by
  induction entries using List.reverseRecOn with
  | nil => rfl
  | append_singleton entries last ih =>
    rw [ofList_concat, distinctBy_append, List.map_append, ← ih, distinctFrom]
    split
    · next hknown =>
      rw [List.mem_reverse] at hknown
      rw [keys_put_of_mem hknown, distinctFrom, List.map_nil, List.append_nil]
    · next hnew =>
      rw [List.mem_reverse] at hnew
      rw [keys_put_of_not_mem hnew, distinctFrom, List.map_singleton]

/-- The value under a key of a filled table is that of the key's last entry. -/
theorem get?_ofList_eq_some_iff {entries : List (String × α)} {key : String} {value : α} :
    (ofList entries).get? key = some value ↔
      ∃ before after, entries = before ++ (key, value) :: after ∧
        ∀ later ∈ after, later.1 ≠ key := by
  induction entries using List.reverseRecOn with
  | nil => simp [ofList, putAll, get?]
  | append_singleton entries last ih =>
    rw [ofList_concat, get?_put]
    by_cases hkey : last.1 = key
    · rw [if_pos hkey, Option.some.injEq]
      constructor
      · rintro rfl
        exact ⟨entries, [], by rw [← hkey], by simp⟩
      · rintro ⟨before, after, hsplit, hafter⟩
        rcases concat_eq_append_cons hsplit with ⟨rfl, -⟩ | ⟨more, -, rfl⟩
        · rfl
        · -- an entry in front of it is not the last one of the key
          exact absurd hkey (hafter last (by simp))
    · rw [if_neg hkey, ih]
      constructor
      · rintro ⟨before, after, rfl, hafter⟩
        refine ⟨before, after ++ [last], by simp, fun later hlater => ?_⟩
        rcases List.mem_append.1 hlater with hlater | hlater
        · exact hafter later hlater
        · rwa [List.mem_singleton.1 hlater]
      · rintro ⟨before, after, hsplit, hafter⟩
        rcases concat_eq_append_cons hsplit with ⟨rfl, -⟩ | ⟨more, rfl, rfl⟩
        · exact absurd rfl hkey
        · exact ⟨before, more, rfl, fun later hlater => hafter later (by simp [hlater])⟩

end MakeAtlas.Table
