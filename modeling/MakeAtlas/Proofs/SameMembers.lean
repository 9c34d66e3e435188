import MakeAtlas.Proofs.TableKeys

/-!
# Lists and tables with the same members

What is made of a list without regard to the order of its members is the same for every list with
these members: a look-up in a table without repeated keys, the members with one key, names in order.

## Key results

- `get?_perm`, `has_perm`: looking up in tables with the same entries
- `filter_key_eq_of_perm`: the members with one key, where no two members share a key
- `pairwise_mergeSort_key`: what is sorted by a key stands in the order of its keys
- `pairwise_mergeSort_names`, `mergeSort_names_eq_of_perm`: names in order
-/

namespace MakeAtlas

variable {α β : Type}

namespace Table

/-- Tables with the same entries, each key once, hold the same under every key. -/
theorem get?_perm {table other : Table α} (perm : table.Perm other) (nodup : table.keys.Nodup)
    (key : String) : table.get? key = other.get? key := by
  have hother : other.keys.Nodup := (perm.map Prod.fst).nodup_iff.1 nodup
  apply Option.ext
  intro value
  rw [get?_eq_some_iff_mem nodup, get?_eq_some_iff_mem hother, perm.mem_iff]

/-- Tables with the same entries have the same keys. -/
theorem has_perm {table other : Table α} (perm : table.Perm other) (key : String) :
    table.has key = other.has key := by
  rw [Bool.eq_iff_iff, has_eq_true_iff, has_eq_true_iff]
  exact (perm.map Prod.fst).mem_iff

end Table

/-- Of lists with the same members, no two of which share a key, the members with one key are the
    same list. -/
theorem filter_key_eq_of_perm [BEq β] [LawfulBEq β] {key : α → β} {xs ys : List α}
    (perm : xs.Perm ys) (nodup : (xs.map key).Nodup) (k : β) :
    (xs.filter fun x => key x == k) = ys.filter fun x => key x == k := by
  -- there are no two such members, so no order between them
  have hnone : ∀ {zs : List α}, (zs.map key).Nodup →
      (zs.filter fun x => key x == k).Pairwise fun _ _ => False := by
    intro zs hzs
    rw [List.nodup_iff_pairwise_ne, List.pairwise_map] at hzs
    refine (hzs.filter _).imp_of_mem fun ha hb hne => hne ?_
    rw [eq_of_beq (List.mem_filter.1 ha).2, eq_of_beq (List.mem_filter.1 hb).2]
  exact (perm.filter _).eq_of_pairwise (fun _ _ _ _ h _ => h.elim) (hnone nodup)
    (hnone ((perm.map key).nodup_iff.1 nodup))

/-! ## Names in order -/

/-- What is sorted by a key stands in the order of its keys. -/
theorem pairwise_mergeSort_key (key : α → String) (xs : List α) :
    (xs.mergeSort fun a b => decide (key a ≤ key b)).Pairwise fun a b => key a ≤ key b := by
  have hsorted : (xs.mergeSort fun a b => decide (key a ≤ key b)).Pairwise
      fun a b => decide (key a ≤ key b) = true :=
    List.pairwise_mergeSort (fun a b c hab hbc => by
      rw [decide_eq_true_eq] at hab hbc ⊢
      exact String.le_trans hab hbc)
    (fun a b => by
      rw [Bool.or_eq_true, decide_eq_true_eq, decide_eq_true_eq]
      exact String.le_total (key a) (key b))
    xs
  exact hsorted.imp of_decide_eq_true

/-- Sorted names are in order. -/
theorem pairwise_mergeSort_names (names : List String) :
    (names.mergeSort (· ≤ ·)).Pairwise (· ≤ ·) :=
  pairwise_mergeSort_key id names

/-- Names in order with the same members are the same list. -/
theorem eq_of_perm_of_pairwise_names {names others : List String} (perm : names.Perm others)
    (hnames : names.Pairwise (· ≤ ·)) (hothers : others.Pairwise (· ≤ ·)) : names = others :=
  perm.eq_of_pairwise (fun _ _ _ _ => String.le_antisymm) hnames hothers

/-- The same names are sorted to the same list. -/
theorem mergeSort_names_eq_of_perm {names others : List String} (perm : names.Perm others) :
    names.mergeSort (· ≤ ·) = others.mergeSort (· ≤ ·) :=
  eq_of_perm_of_pairwise_names
    ((List.mergeSort_perm names _).trans (perm.trans (List.mergeSort_perm others _).symm))
    (pairwise_mergeSort_names names) (pairwise_mergeSort_names others)

end MakeAtlas
