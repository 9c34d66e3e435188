/-!
# Where a list is split

A list that is made of others is split at an element: which of the others the element comes from,
and what is in front of it there.

## Key results

- `append_eq_append_cons`: an element of two lists behind each other
- `takeWhile_append_of_head?`, `dropWhile_append_of_head?`: where a wanted front ends
- `pair_infix_cons_iff`: two elements behind each other
- `mem_zipIdx_iff`: an element and its number
- `filterMap_eq_append_cons`: an element of what the members of a list yield
- `flatMap_eq_append_cons`: an element of the lists that the members of a list yield
-/

namespace MakeAtlas

variable {α β : Type}

/-- An element of two lists behind each other is in the first one or in the second one. -/
theorem append_eq_append_cons {first second front rest : List α} {a : α}
    (h : first ++ second = front ++ a :: rest) :
    (∃ more, front = first ++ more ∧ second = more ++ a :: rest) ∨
      ∃ more, first = front ++ a :: more ∧ rest = more ++ second := by
  rcases List.append_eq_append_iff.1 h with ⟨more, hfront, hsecond⟩ | ⟨more, hfirst, hmore⟩
  · exact Or.inl ⟨more, hfront, hsecond⟩
  · cases more with
    | nil =>
      -- the element is the first one of the second list
      rw [List.append_nil] at hfirst
      exact Or.inl ⟨[], by rw [hfirst, List.append_nil], hmore.symm⟩
    | cons b more =>
      cases hmore
      exact Or.inr ⟨more, hfirst, rfl⟩

/-- An element of a list that ends with another one is that one, or in front of it. -/
theorem concat_eq_append_cons {first front rest : List α} {a b : α}
    (h : first ++ [b] = front ++ a :: rest) :
    (b = a ∧ first = front) ∨ ∃ more, first = front ++ a :: more ∧ rest = more ++ [b] := by
  rcases append_eq_append_cons h with ⟨more, rfl, hlast⟩ | hfirst
  · left
    rcases List.singleton_eq_append_iff.1 hlast with ⟨rfl, hb⟩ | ⟨-, hb⟩
    · cases hb
      exact ⟨rfl, (List.append_nil first).symm⟩
    · cases hb
  · exact Or.inr hfirst

/-- What is in front of an ending. -/
theorem take_length_sub (taken behind : List α) :
    (taken ++ behind).take ((taken ++ behind).length - behind.length) = taken := by
  rw [List.length_append, Nat.add_sub_cancel, List.take_left]

/-- What is taken from the front ends where an element is not wanted. -/
theorem takeWhile_append_of_head? {p : α → Bool} {front rest : List α}
    (hfront : ∀ a ∈ front, p a = true) (hrest : ∀ a ∈ rest.head?, p a = false) :
    (front ++ rest).takeWhile p = front := by
  rw [List.takeWhile_append_of_pos hfront]
  cases rest with
  | nil => rw [List.takeWhile_nil, List.append_nil]
  | cons a rest => rw [List.takeWhile_cons_of_neg (by simp [hrest a rfl]), List.append_nil]

/-- What is dropped from the front ends where an element is kept. -/
theorem dropWhile_append_of_head? {p : α → Bool} {front rest : List α}
    (hfront : ∀ a ∈ front, p a = true) (hrest : ∀ a ∈ rest.head?, p a = false) :
    (front ++ rest).dropWhile p = rest := by
  rw [List.dropWhile_append_of_pos hfront]
  cases rest with
  | nil => rfl
  | cons a rest => rw [List.dropWhile_cons_of_neg (by simp [hrest a rfl])]

/-- Where two elements behind each other stand in a list. -/
theorem pair_infix_cons_iff {a b c : α} {xs : List α} :
    [a, b] <:+: c :: xs ↔ (c = a ∧ xs.head? = some b) ∨ [a, b] <:+: xs := by
  have hprefix : [a, b] <+: c :: xs ↔ c = a ∧ xs.head? = some b := by
    rw [List.cons_prefix_cons, eq_comm]
    cases xs with
    | nil => simp
    | cons d xs => simp [List.cons_prefix_cons, eq_comm]
  rw [List.infix_cons_iff, hprefix]

/-- The places of an element, counted from a number on. -/
theorem mem_zipIdx_iff {xs : List α} {a : α} {start number : Nat} :
    (a, number) ∈ xs.zipIdx start ↔
      ∃ before after, xs = before ++ a :: after ∧ number = start + before.length := by
  induction xs generalizing start with
  | nil => simp
  | cons x xs ih =>
    rw [List.zipIdx_cons, List.mem_cons, ih]
    constructor
    · rintro (hfirst | ⟨before, after, rfl, rfl⟩)
      · cases hfirst
        exact ⟨[], xs, rfl, rfl⟩
      · exact ⟨x :: before, after, rfl, by rw [List.length_cons]; omega⟩
    · rintro ⟨before, after, hxs, rfl⟩
      cases before with
      | nil =>
        cases hxs
        exact Or.inl rfl
      | cons y before =>
        cases hxs
        exact Or.inr ⟨before, after, rfl, by rw [List.length_cons]; omega⟩

/-- An element of what the members of a list yield comes from one of them. -/
theorem filterMap_eq_append_cons {f : α → Option β} {xs : List α} {before after : List β} {y : β}
    (h : xs.filterMap f = before ++ y :: after) :
    ∃ front x behind, xs = front ++ x :: behind ∧ f x = some y ∧
      front.filterMap f = before ∧ behind.filterMap f = after := by
  obtain ⟨front, back, rfl, hfront, hback⟩ := List.filterMap_eq_append_iff.1 h
  -- the members that yield nothing may stand on either side of a split
  obtain ⟨skipped, x, behind, rfl, hskipped, hx, hbehind⟩ := List.filterMap_eq_cons_iff.1 hback
  refine ⟨front ++ skipped, x, behind, by rw [List.append_assoc], hx, ?_, hbehind⟩
  rw [List.filterMap_append, hfront, List.filterMap_eq_nil_iff.2 hskipped, List.append_nil]

/-- An element of the lists that the members of a list yield comes from one of them. -/
theorem flatMap_eq_append_cons {f : α → List β} {xs : List α} {before after : List β} {y : β}
    (h : xs.flatMap f = before ++ y :: after) :
    ∃ front x behind inner rest, xs = front ++ x :: behind ∧ f x = inner ++ y :: rest ∧
      before = front.flatMap f ++ inner := by
  induction xs generalizing before with
  | nil => simp at h
  | cons x xs ih =>
    rw [List.flatMap_cons] at h
    rcases append_eq_append_cons h with ⟨more, rfl, hmore⟩ | ⟨rest, hx, -⟩
    · obtain ⟨front, x', behind, inner, rest, rfl, hx', rfl⟩ := ih hmore
      exact ⟨x :: front, x', behind, inner, rest, rfl, hx', by simp⟩
    · exact ⟨[], x, xs, before, rest, rfl, hx, rfl⟩

end MakeAtlas
