/-!
# The first of each kind

`distinctBy key xs` keeps, of the elements of a list that share a key, the first.

* `mem_of_mem_distinctBy`   nothing is added
* `key_mem_distinctBy`      no key is lost
* `distinctBy_append`       a list in two parts
-/

namespace MakeAtlas

variable {α β : Type} [DecidableEq β]

/-- The elements whose key is neither in `seen` nor the key of an earlier element. -/
def distinctFrom (key : α → β) (seen : List β) : List α → List α
  | [] => []
  | x :: xs =>
    if key x ∈ seen then distinctFrom key seen xs
    else x :: distinctFrom key (key x :: seen) xs

/-- The first element of each key, in order. -/
def distinctBy (key : α → β) (xs : List α) : List α :=
  distinctFrom key [] xs

theorem mem_of_mem_distinctFrom {key : α → β} {seen : List β} {xs : List α} {x : α}
    (h : x ∈ distinctFrom key seen xs) : x ∈ xs ∧ key x ∉ seen := by
  induction xs generalizing seen with
  | nil => simp [distinctFrom] at h
  | cons y ys ih =>
    -- An element with a seen key is dropped, any other is kept and seen from there on
    by_cases hy : key y ∈ seen
    · rw [distinctFrom, if_pos hy] at h
      exact ⟨List.mem_cons_of_mem _ (ih h).1, (ih h).2⟩
    · rw [distinctFrom, if_neg hy, List.mem_cons] at h
      rcases h with rfl | h
      · exact ⟨List.mem_cons_self, hy⟩
      · exact ⟨List.mem_cons_of_mem _ (ih h).1, fun hs => (ih h).2 (List.mem_cons_of_mem _ hs)⟩

theorem mem_of_mem_distinctBy {key : α → β} {xs : List α} {x : α}
    (h : x ∈ distinctBy key xs) : x ∈ xs :=
  (mem_of_mem_distinctFrom h).1

theorem key_mem_distinctFrom {key : α → β} {seen : List β} {xs : List α} {x : α} (h : x ∈ xs)
    (hs : key x ∉ seen) : key x ∈ (distinctFrom key seen xs).map key := by
  induction xs generalizing seen with
  | nil => simp at h
  | cons y ys ih =>
    by_cases hy : key y ∈ seen
    · rw [distinctFrom, if_pos hy]
      rcases List.mem_cons.1 h with rfl | h
      · exact absurd hy hs
      · exact ih h hs
    · rw [distinctFrom, if_neg hy, List.map_cons, List.mem_cons]
      by_cases hxy : key x = key y
      · exact Or.inl hxy
      · rcases List.mem_cons.1 h with rfl | h
        · exact absurd rfl hxy
        · exact Or.inr (ih h (by simp [hxy, hs]))

theorem key_mem_distinctBy {key : α → β} {xs : List α} {x : α} (h : x ∈ xs) :
    key x ∈ (distinctBy key xs).map key :=
  key_mem_distinctFrom h (by simp)

theorem distinctFrom_append (key : α → β) (seen : List β) (xs ys : List α) :
    distinctFrom key seen (xs ++ ys) =
      distinctFrom key seen xs ++
        distinctFrom key (((distinctFrom key seen xs).map key).reverse ++ seen) ys := by
  induction xs generalizing seen with
  | nil => simp [distinctFrom]
  | cons x xs ih =>
    by_cases hx : key x ∈ seen
    · simp [distinctFrom, hx, ih]
    · simp [distinctFrom, hx, ih]

theorem distinctBy_append (key : α → β) (xs ys : List α) :
    distinctBy key (xs ++ ys) =
      distinctBy key xs ++ distinctFrom key ((distinctBy key xs).map key).reverse ys := by
  simpa [distinctBy] using distinctFrom_append key [] xs ys

end MakeAtlas
