import MakeAtlas.Proofs.Graph.Changes
import Mathlib.Data.List.Flatten
import Mathlib.Data.List.Nodup

/-!
# The listing of a graph's dependencies

A graph keeps its edges in the order in which they were accepted and lists them project by project.
The listing is the same edges in another order, and an accepted edge comes in at one place of it.

## Key results

- `filter_listing`: in the listing, the edges of a project are those that were accepted from it
- `dependencies_perm_edges`: the listing holds the accepted edges, each once
- `dependencies_addDependency`: an accepted edge comes into the listing, and nothing else changes
- `dependencies_sublist_applyAll`: later changes leave the listed edges in their order
- `mem_dependenciesOf_iff_exists_edge`: a project depends on those that its edges lead to
-/

namespace MakeAtlas

/-! ## Taking elements key by key -/

section Grouping

variable {α : Type} {key : α → String}

/-- Elements of other keys have nothing of a key. -/
private theorem filter_filter_ne {k j : String} (h : j ≠ k) (xs : List α) :
    (xs.filter fun x => !(key x == k)).filter (fun x => key x == j) =
      xs.filter fun x => key x == j := by
  rw [List.filter_filter]
  refine List.filter_congr fun x _ => ?_
  by_cases hx : key x = j
  · simp [hx, h]
  · simp [hx]

/-- Taking elements key by key takes each of them once, if every key is used once and every element
    has one of the keys. -/
theorem flatMap_filter_perm {keys : List String} {xs : List α} (nodup : keys.Nodup)
    (known : ∀ x ∈ xs, key x ∈ keys) :
    (keys.flatMap fun k => xs.filter fun x => key x == k).Perm xs := by
  induction keys generalizing xs with
  | nil =>
    have hxs : xs = [] := List.eq_nil_iff_forall_not_mem.2 fun x hx => nomatch known x hx
    rw [hxs]
    exact List.Perm.refl []
  | cons k keys ih =>
    rw [List.nodup_cons] at nodup
    -- the elements of the first key, and then those of other keys
    have hothers : (keys.flatMap fun j => xs.filter fun x => key x == j) =
        keys.flatMap fun j => (xs.filter fun x => !(key x == k)).filter fun x => key x == j :=
      List.flatMap_congr fun j hj =>
        (filter_filter_ne (ne_of_mem_of_not_mem hj nodup.1) xs).symm
    have hrest : (keys.flatMap fun j => (xs.filter fun x => !(key x == k)).filter
        fun x => key x == j).Perm (xs.filter fun x => !(key x == k)) := ih nodup.2 (by
      intro x hx
      rw [List.mem_filter] at hx
      rcases List.mem_cons.1 (known x hx.1) with hk | hk
      · simp [hk] at hx
      · exact hk)
    rw [List.flatMap_cons, hothers]
    exact (hrest.append_left _).trans (List.filter_append_perm (fun x => key x == k) xs)

/-- Of elements that were taken key by key, those of one key are the ones there were of it. -/
theorem filter_flatMap_filter {keys : List String} {xs : List α} (nodup : keys.Nodup) {k : String}
    (hk : k ∈ keys) :
    (keys.flatMap fun j => xs.filter fun x => key x == j).filter (fun x => key x == k) =
      xs.filter fun x => key x == k := by
  have hnone : ∀ j, j ≠ k →
      (xs.filter fun x => key x == j).filter (fun x => key x == k) = [] := by
    intro j hj
    rw [List.filter_eq_nil_iff]
    intro x hx hxk
    rw [List.mem_filter, beq_iff_eq] at hx
    exact hj (hx.2.symm.trans (beq_iff_eq.1 hxk))
  have hsame : (xs.filter fun x => key x == k).filter (fun x => key x == k) =
      xs.filter fun x => key x == k :=
    List.filter_eq_self.2 fun x hx => (List.mem_filter.1 hx).2
  obtain ⟨before, after, rfl⟩ := List.append_of_mem hk
  rw [List.nodup_middle, List.nodup_cons, List.mem_append, not_or] at nodup
  have hbefore : before.flatMap (fun j => (xs.filter fun x => key x == j).filter
      fun x => key x == k) = [] :=
    List.flatMap_eq_nil_iff.2 fun j hj => hnone j fun hjk => nodup.1.1 (hjk ▸ hj)
  have hafter : after.flatMap (fun j => (xs.filter fun x => key x == j).filter
      fun x => key x == k) = [] :=
    List.flatMap_eq_nil_iff.2 fun j hj => hnone j fun hjk => nodup.1.2 (hjk ▸ hj)
  rw [List.filter_flatMap, List.flatMap_append, List.flatMap_cons, hbefore, hafter, hsame,
    List.nil_append, List.append_nil]

end Grouping

namespace Graph

/-! ## Edges and their listing -/

/-- In the listing, the edges of a project are those that were accepted from it. -/
theorem filter_listing {g : Graph} (h : g.nodes.keys.Nodup) {name : String}
    (hname : name ∈ g.nodes.keys) :
    g.dependencies.filter (fun d => d.source == name) = g.edgesFrom name :=
  filter_flatMap_filter h hname

/-- The listing of a coherent graph holds its edges, each once. -/
theorem dependencies_perm_edges {g : Graph} (h : Coherent g) : g.dependencies.Perm g.edges :=
  flatMap_filter_perm h.names_nodup fun d hd => (h.ends_known d hd).1

theorem nodup_ends_dependencies {g : Graph} (h : Coherent g) :
    (g.dependencies.map Dependency.ends).Nodup :=
  ((dependencies_perm_edges h).map Dependency.ends).nodup_iff.2 h.ends_nodup

/-- An accepted edge comes behind the edges from its source that were listed before, and nothing
    else changes in the listing. -/
theorem dependencies_addDependency {g : Graph} (h : Coherent g) {d : Dependency}
    (haccepts : g.accepts d = true) :
    ∃ before behind, g.dependencies = before ++ behind ∧
      (g.addDependency d).dependencies = before ++ d :: behind := by
  have hsource : d.source ∈ g.nodes.keys := (ends_known_of_valid (accepts_iff.1 haccepts).1).1
  obtain ⟨first, last, hkeys⟩ := List.append_of_mem hsource
  have nodup := h.names_nodup
  rw [hkeys, List.nodup_middle, List.nodup_cons, List.mem_append, not_or] at nodup
  -- only the edges from the source are more than they were
  have hfrom : ∀ name, (g.addDependency d).edgesFrom name =
      g.edgesFrom name ++ if d.source = name then [d] else [] := by
    intro name
    rw [addDependency_of_accepts haccepts, edgesFrom, edgesFrom, List.filter_append]
    by_cases hname : d.source = name <;> simp [hname]
  have hother : ∀ names : List String, d.source ∉ names →
      names.flatMap (g.addDependency d).edgesFrom = names.flatMap g.edgesFrom := by
    intro names hnames
    refine List.flatMap_congr fun name hname => ?_
    rw [hfrom, if_neg (ne_of_mem_of_not_mem hname hnames).symm, List.append_nil]
  refine ⟨first.flatMap g.edgesFrom ++ g.edgesFrom d.source, last.flatMap g.edgesFrom, ?_, ?_⟩
  · rw [dependencies, hkeys, List.flatMap_append, List.flatMap_cons, List.append_assoc]
  · rw [dependencies, nodes_addDependency, hkeys, List.flatMap_append, List.flatMap_cons,
      hother first nodup.1.1, hother last nodup.1.2, hfrom, if_pos rfl]
    simp only [List.append_assoc, List.singleton_append]

/-- Later changes leave the listed edges in their order and only put others between them. -/
theorem dependencies_sublist_applyAll (g : Graph) (changes : List Change) :
    g.dependencies.Sublist (g.applyAll changes).dependencies := by
  have hfrom : ∀ name, (g.edgesFrom name).Sublist ((g.applyAll changes).edgesFrom name) :=
    fun name => (edges_prefix_applyAll g changes).sublist.filter _
  rw [dependencies, dependencies, keys_applyAll, List.flatMap_append]
  exact (List.Sublist.flatMap_right g.nodes.keys fun name _ => hfrom name).trans
    (List.sublist_append_left _ _)

/-! ## Neighbours -/

/-- A project depends on those that its edges lead to. -/
theorem mem_dependenciesOf_iff_exists_edge {g : Graph} {name other : String} :
    other ∈ g.dependenciesOf name ↔ ∃ d ∈ g.edges, d.source = name ∧ d.target = other := by
  simp only [dependenciesOf, successors, edgesFrom, List.mem_mergeSort, List.mem_map,
    List.mem_filter, beq_iff_eq, and_assoc]

/-- On a project depend those from which edges lead to it. -/
theorem mem_dependentsOf_iff_exists_edge {g : Graph} {name other : String} :
    name ∈ g.dependentsOf other ↔ ∃ d ∈ g.edges, d.source = name ∧ d.target = other := by
  simp only [dependentsOf, List.mem_mergeSort, List.mem_map, List.mem_filter, beq_iff_eq]
  refine exists_congr fun d => ?_
  rw [and_assoc]
  exact and_congr_right fun _ => and_comm

end Graph

end MakeAtlas
