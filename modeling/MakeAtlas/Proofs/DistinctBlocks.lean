import MakeAtlas.Distinct
import MakeAtlas.Proofs.ListSplits
import Mathlib.Data.List.Basic
import Mathlib.Data.List.Induction

/-!
# The first of each kind, block by block

`distinctBy` looks back over everything before an element. Where a list is made of blocks that
share no key, looking back over the element's own block is enough.

## Key results

- `distinctFrom_congr`: only the keys that occur matter among those that were seen
- `mem_distinctBy_iff`: an element stays exactly if nothing before it has its key
- `mem_distinctBy_filterMap_iff`: the same for what the members of a list yield
- `mem_distinctBy_flatMap_iff`: the same for lists that the members of a list yield
- `nodup_map_distinctBy`: no two elements that stay share a key
- `pairwise_distinctBy`: elements that stay are in the order of the first of their keys
- `filter_distinctBy`: elements may be chosen by their keys before or after
- `distinctBy_isPrefix`: more elements behind a list change nothing in front
- `distinctBy_map`: elements may be made from others before or after
- `distinctBy_injective`: keys that tell the same elements apart keep the same elements
- `distinctFrom_filterMap_distinctBy`: later elements may be dropped early
- `distinctBy_flatMap`: blocks without common keys are treated one by one
-/

namespace MakeAtlas

variable {α β γ : Type} [DecidableEq β]

/-- Two lists of seen keys that agree on the keys of a list treat it alike. -/
theorem distinctFrom_congr {key : α → β} {seen seen' : List β} {xs : List α}
    (h : ∀ x ∈ xs, key x ∈ seen ↔ key x ∈ seen') :
    distinctFrom key seen xs = distinctFrom key seen' xs := by
  induction xs generalizing seen seen' with
  | nil => rfl
  | cons x xs ih =>
    have hx := h x List.mem_cons_self
    by_cases hs : key x ∈ seen
    · rw [distinctFrom, distinctFrom, if_pos hs, if_pos (hx.1 hs)]
      exact ih fun y hy => h y (List.mem_cons_of_mem _ hy)
    · rw [distinctFrom, distinctFrom, if_neg hs, if_neg (fun hs' => hs (hx.2 hs'))]
      rw [ih]
      intro y hy
      simp only [List.mem_cons, h y (List.mem_cons_of_mem _ hy)]

/-- Among the elements that stay, an element is found as the first with its key. -/
private theorem mem_distinctFrom_iff_find? {key : α → β} {seen : List β} {xs : List α} {x : α} :
    x ∈ distinctFrom key seen xs ↔
      key x ∉ seen ∧ xs.find? (fun y => key y == key x) = some x := by
  induction xs generalizing seen with
  | nil => simp [distinctFrom]
  | cons y ys ih =>
    by_cases hy : key y ∈ seen
    · -- a seen element is not the one that is looked for
      rw [distinctFrom, if_pos hy, ih]
      refine and_congr_right fun hx => ?_
      have hne : key y ≠ key x := fun he => hx (he ▸ hy)
      rw [List.find?_cons_of_neg (by simpa using hne)]
    · rw [distinctFrom, if_neg hy, List.mem_cons, ih, List.mem_cons, not_or]
      by_cases hxy : key y = key x
      · rw [List.find?_cons_of_pos (by simpa using hxy)]
        constructor
        · intro h
          rcases h with rfl | ⟨⟨hne, _⟩, _⟩
          · exact ⟨hy, rfl⟩
          · exact absurd hxy.symm hne
        · intro h
          obtain ⟨_, hx⟩ := h
          exact Or.inl (Option.some.inj hx).symm
      · rw [List.find?_cons_of_neg (by simpa using hxy)]
        constructor
        · intro h
          rcases h with rfl | ⟨⟨_, hx⟩, hfind⟩
          · exact absurd rfl hxy
          · exact ⟨hx, hfind⟩
        · intro h
          obtain ⟨hx, hfind⟩ := h
          exact Or.inr ⟨⟨Ne.symm hxy, hx⟩, hfind⟩

/-- An element stays exactly if it stands somewhere with nothing before it that has its key. -/
theorem mem_distinctBy_iff {key : α → β} {xs : List α} {x : α} :
    x ∈ distinctBy key xs ↔
      ∃ before after, xs = before ++ x :: after ∧ ∀ y ∈ before, key y ≠ key x := by
  rw [distinctBy, mem_distinctFrom_iff_find?, List.find?_eq_some_iff_append]
  simp

/-- Of what the members of a list yield, an element stays exactly if some member yields it and no
    member before that one yields an element with its key. -/
theorem mem_distinctBy_filterMap_iff {key : α → β} {f : γ → Option α} {xs : List γ} {x : α} :
    x ∈ distinctBy key (xs.filterMap f) ↔
      ∃ before a after, xs = before ++ a :: after ∧ f a = some x ∧
        ∀ b ∈ before, ∀ y, f b = some y → key y ≠ key x := by
  rw [mem_distinctBy_iff]
  constructor
  · intro h
    obtain ⟨before, after, hxs, hbefore⟩ := h
    obtain ⟨front, a, back, rfl, ha, rfl, -⟩ := filterMap_eq_append_cons hxs
    exact ⟨front, a, back, rfl, ha, fun b hb y hy => hbefore y (List.mem_filterMap.2 ⟨b, hb, hy⟩)⟩
  · intro h
    obtain ⟨before, a, after, rfl, ha, hbefore⟩ := h
    refine ⟨before.filterMap f, after.filterMap f, ?_, ?_⟩
    · rw [List.filterMap_append, List.filterMap_cons_some ha]
    · intro y hy
      obtain ⟨b, hb, hy⟩ := List.mem_filterMap.1 hy
      exact hbefore b hb y hy

/-- Of the lists that the members of a list yield, an element stays exactly if it stays in the list
    of some member and no member before that one yields an element with its key. -/
theorem mem_distinctBy_flatMap_iff {key : α → β} {f : γ → List α} {xs : List γ} {x : α} :
    x ∈ distinctBy key (xs.flatMap f) ↔
      ∃ before a after, xs = before ++ a :: after ∧ x ∈ distinctBy key (f a) ∧
        ∀ b ∈ before, ∀ y ∈ f b, key y ≠ key x := by
  rw [mem_distinctBy_iff]
  constructor
  · intro h
    obtain ⟨before, after, hxs, hbefore⟩ := h
    obtain ⟨front, a, back, inner, rest, rfl, ha, rfl⟩ := flatMap_eq_append_cons hxs
    rw [List.forall_mem_append] at hbefore
    refine ⟨front, a, back, rfl, mem_distinctBy_iff.2 ⟨inner, rest, ha, hbefore.2⟩, ?_⟩
    exact fun b hb y hy => hbefore.1 y (List.mem_flatMap.2 ⟨b, hb, hy⟩)
  · intro h
    obtain ⟨before, a, after, rfl, hx, hbefore⟩ := h
    obtain ⟨inner, rest, ha, hinner⟩ := mem_distinctBy_iff.1 hx
    refine ⟨before.flatMap f ++ inner, rest ++ after.flatMap f, by simp [ha], ?_⟩
    rw [List.forall_mem_append]
    refine ⟨fun y hy => ?_, hinner⟩
    obtain ⟨b, hb, hy⟩ := List.mem_flatMap.1 hy
    exact hbefore b hb y hy

/-- No two elements that stay share a key. -/
theorem nodup_map_distinctBy (key : α → β) (xs : List α) :
    ((distinctBy key xs).map key).Nodup := by
  rw [distinctBy]
  generalize [] = seen
  induction xs generalizing seen with
  | nil => simp [distinctFrom]
  | cons x xs ih =>
    by_cases hx : key x ∈ seen
    · rw [distinctFrom, if_pos hx]
      exact ih seen
    · rw [distinctFrom, if_neg hx, List.map_cons, List.nodup_cons]
      refine ⟨?_, ih (key x :: seen)⟩
      intro hmem
      obtain ⟨y, hy, he⟩ := List.mem_map.1 hmem
      exact (mem_of_mem_distinctFrom hy).2 (he ▸ List.mem_cons_self)

/-- Of two elements that stay, the one in front comes before anything with the key of the other. -/
theorem pairwise_distinctBy (key : α → β) (xs : List α) :
    (distinctBy key xs).Pairwise fun x y =>
      ∃ before after, xs = before ++ x :: after ∧ ∀ z ∈ before ++ [x], key z ≠ key y := by
  -- Induction on the list from its end: a last element stays if its key is new
  induction xs using List.reverseRecOn with
  | nil => exact List.Pairwise.nil
  | append_singleton xs last ih =>
    have hfront : (distinctBy key xs).Pairwise fun x y =>
        ∃ before after, xs ++ [last] = before ++ x :: after ∧
          ∀ z ∈ before ++ [x], key z ≠ key y := by
      refine ih.imp fun h => ?_
      obtain ⟨before, after, rfl, hbefore⟩ := h
      exact ⟨before, after ++ [last], by simp, hbefore⟩
    rw [distinctBy_append, distinctFrom]
    split
    · rwa [distinctFrom, List.append_nil]
    · next hnew =>
      rw [distinctFrom, List.pairwise_append]
      refine ⟨hfront, List.pairwise_singleton _ _, fun x hx y hy => ?_⟩
      rw [List.mem_singleton.1 hy]
      obtain ⟨before, after, rfl, -⟩ := mem_distinctBy_iff.1 hx
      refine ⟨before, after ++ [last], by simp, fun z hz hkey => hnew ?_⟩
      have hmem : z ∈ before ++ x :: after := by
        rcases List.mem_append.1 hz with hz | hz
        · exact List.mem_append_left _ hz
        · rw [List.mem_singleton.1 hz]
          exact List.mem_append_right _ List.mem_cons_self
      rw [List.mem_reverse, ← hkey]
      exact key_mem_distinctBy hmem

/-- Elements are chosen by their keys before or after, with the same result. -/
theorem filter_distinctBy {key : α → β} (chosen : β → Bool) (xs : List α) :
    (distinctBy key xs).filter (fun x => chosen (key x)) =
      distinctBy key (xs.filter fun x => chosen (key x)) := by
  rw [distinctBy, distinctBy]
  generalize [] = seen
  induction xs generalizing seen with
  | nil => rfl
  | cons x xs ih =>
    cases hx : chosen (key x) with
    | true =>
      rw [List.filter_cons_of_pos (p := fun x => chosen (key x)) hx]
      by_cases hs : key x ∈ seen
      · rw [distinctFrom, distinctFrom, if_pos hs, if_pos hs, ih]
      · rw [distinctFrom, distinctFrom, if_neg hs, if_neg hs,
          List.filter_cons_of_pos (p := fun x => chosen (key x)) hx, ih]
    | false =>
      have hx' : ¬ chosen (key x) = true := by simp [hx]
      rw [List.filter_cons_of_neg (p := fun x => chosen (key x)) hx']
      by_cases hs : key x ∈ seen
      · rw [distinctFrom, if_pos hs, ih]
      · rw [distinctFrom, if_neg hs,
          List.filter_cons_of_neg (p := fun x => chosen (key x)) hx', ih]
        -- no chosen element has the key of one that is not
        refine distinctFrom_congr fun y hy => ?_
        have hne : key y ≠ key x := fun he => hx' (he ▸ (List.mem_filter.1 hy).2)
        rw [List.mem_cons, or_iff_right hne]

/-- What is kept of the beginning of a list is the beginning of what is kept of the list. -/
theorem distinctBy_isPrefix {key : α → β} {xs ys : List α} (h : xs <+: ys) :
    distinctBy key xs <+: distinctBy key ys := by
  obtain ⟨rest, rfl⟩ := h
  rw [distinctBy_append]
  exact List.prefix_append _ _

/-- Elements are made from others before or after, with the same result. -/
theorem distinctBy_map {key : α → β} (f : γ → α) (xs : List γ) :
    distinctBy key (xs.map f) = (distinctBy (fun x => key (f x)) xs).map f := by
  rw [distinctBy, distinctBy]
  generalize [] = seen
  induction xs generalizing seen with
  | nil => rfl
  | cons x xs ih =>
    by_cases hx : key (f x) ∈ seen
    · rw [List.map_cons, distinctFrom, distinctFrom, if_pos hx, if_pos hx, ih]
    · rw [List.map_cons, distinctFrom, distinctFrom, if_neg hx, if_neg hx, ih, List.map_cons]

/-- Keys that are made of other keys, each of a different one, keep the same elements as those. -/
theorem distinctBy_injective {δ : Type} [DecidableEq δ] {g : β → δ} (hg : Function.Injective g)
    (key : α → β) (xs : List α) : distinctBy (fun x => g (key x)) xs = distinctBy key xs := by
  suffices ∀ seen, distinctFrom (fun x => g (key x)) (seen.map g) xs = distinctFrom key seen xs from
    this []
  intro seen
  induction xs generalizing seen with
  | nil => rfl
  | cons x xs ih =>
    have hmem : g (key x) ∈ seen.map g ↔ key x ∈ seen := List.mem_map_of_injective hg
    by_cases hx : key x ∈ seen
    · rw [distinctFrom, distinctFrom, if_pos (hmem.2 hx), if_pos hx, ih]
    · rw [distinctFrom, distinctFrom, if_neg (mt hmem.1 hx), if_neg hx]
      exact congrArg (x :: ·) (ih (key x :: seen))

/-- Where elements that share a key yield nothing, or what has one key in common, dropping the later
    ones early is not seen in what is kept of all they yield. -/
theorem distinctFrom_filterMap_distinctBy {δ ε : Type} [DecidableEq δ] {key : α → β}
    {key' : ε → δ} {f : α → Option ε} {xs : List α}
    (alike : ∀ x ∈ xs, ∀ y ∈ xs, key x = key y → (f x).map key' = (f y).map key')
    (seen : List δ) :
    distinctFrom key' seen ((distinctBy key xs).filterMap f) =
      distinctFrom key' seen (xs.filterMap f) := by
  rw [distinctBy]
  -- what an element with a dropped key would yield has been seen
  have dropped : ∀ x ∈ xs, key x ∈ ([] : List β) → ∀ e ∈ f x, key' e ∈ seen :=
    fun _ _ hkey => absurd hkey List.not_mem_nil
  generalize [] = keys at dropped ⊢
  induction xs generalizing keys seen with
  | nil => rfl
  | cons x xs ih =>
    have hrest : ∀ y ∈ xs, ∀ z ∈ xs, key y = key z → (f y).map key' = (f z).map key' :=
      fun y hy z hz => alike y (List.mem_cons_of_mem x hy) z (List.mem_cons_of_mem x hz)
    have hlater : ∀ y ∈ xs, key y ∈ keys → ∀ e ∈ f y, key' e ∈ seen :=
      fun y hy => dropped y (List.mem_cons_of_mem x hy)
    by_cases hx : key x ∈ keys
    · rw [distinctFrom, if_pos hx, ih hrest seen keys hlater]
      cases hfx : f x with
      | none => rw [List.filterMap_cons_none hfx]
      | some e =>
        rw [List.filterMap_cons_some hfx, distinctFrom,
          if_pos (dropped x List.mem_cons_self hx e hfx)]
    · rw [distinctFrom, if_neg hx]
      -- once what this element yields has been seen, so has what later ones with its key yield
      have hnext : ∀ seen', seen ⊆ seen' → (∀ e ∈ f x, key' e ∈ seen') →
          ∀ y ∈ xs, key y ∈ key x :: keys → ∀ e ∈ f y, key' e ∈ seen' := by
        intro seen' hsub hfx y hy hkey e he
        rcases List.mem_cons.1 hkey with hkey | hkey
        · have hsame := alike y (List.mem_cons_of_mem x hy) x List.mem_cons_self hkey
          rw [he] at hsame
          obtain ⟨d, hd, hde⟩ := Option.map_eq_some_iff.1 hsame.symm
          rw [← hde]
          exact hfx d hd
        · exact hsub (hlater y hy hkey e he)
      cases hfx : f x with
      | none =>
        rw [List.filterMap_cons_none hfx, List.filterMap_cons_none hfx]
        exact ih hrest seen _ (hnext seen (List.Subset.refl _) (by simp [hfx]))
      | some d =>
        rw [List.filterMap_cons_some hfx, List.filterMap_cons_some hfx, distinctFrom, distinctFrom]
        by_cases hd : key' d ∈ seen
        · rw [if_pos hd, if_pos hd]
          exact ih hrest seen _ (hnext seen (List.Subset.refl _) (by simp [hfx, hd]))
        · rw [if_neg hd, if_neg hd, ih hrest (key' d :: seen)]
          exact hnext _ (List.subset_cons_self _ _) (by simp [hfx])

/-- Two lists without a common key are treated one after the other. -/
theorem distinctBy_append_of_disjoint {key : α → β} {xs ys : List α}
    (h : ∀ x ∈ xs, ∀ y ∈ ys, key x ≠ key y) :
    distinctBy key (xs ++ ys) = distinctBy key xs ++ distinctBy key ys := by
  rw [distinctBy_append]
  congr 1
  apply distinctFrom_congr
  intro y hy
  simp only [List.mem_reverse, List.mem_map, List.not_mem_nil, iff_false]
  intro h
  obtain ⟨x, hx, he⟩ := h
  exact h x (mem_of_mem_distinctBy hx) y hy he

/-- Blocks without common keys are treated one by one. -/
theorem distinctBy_flatMap {key : α → β} {blocks : List γ} {f : γ → List α}
    (h : blocks.Pairwise fun a b => ∀ x ∈ f a, ∀ y ∈ f b, key x ≠ key y) :
    distinctBy key (blocks.flatMap f) = blocks.flatMap fun a => distinctBy key (f a) := by
  induction blocks with
  | nil => rfl
  | cons a blocks ih =>
    rw [List.pairwise_cons] at h
    rw [List.flatMap_cons, List.flatMap_cons, distinctBy_append_of_disjoint, ih h.2]
    intro x hx y hy
    obtain ⟨b, hb, hyb⟩ := List.mem_flatMap.1 hy
    exact h.1 b hb x hx y hyb

end MakeAtlas
