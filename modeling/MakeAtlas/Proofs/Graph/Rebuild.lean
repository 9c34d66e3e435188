import MakeAtlas.Proofs.Graph.Changes
import MakeAtlas.Proofs.Inference.Blocks

/-!
# The graph of what was found

A graph that is built from the nodes of a workspace and the dependencies found between them accepts
every one of these dependencies, and lists them as they were found. Two things must agree for this:
the projects of the graph with those of the search, also where nodes share a name, and the order of
the projects in both.

## Key results

- `projects_foldl_addNode`: nodes added one by one are the projects of the search
- `nodes_ofResults`: the nodes of a graph that is built so
- `foldl_addDependency_eq`: valid dependencies of different ends are all accepted
- `flatMap_filter_key`: taking elements key by key keeps an order that follows the keys
- `flatMap_edges_from`: listing dependencies by their sources keeps an order that follows them
- `ofResults_keeps_found`: the graph of a search lists what was found
-/

namespace MakeAtlas

namespace Graph

/-! ## Adding nodes -/

/-- Adding nodes enters them under their names and adds nothing else. -/
theorem foldl_addNode_eq (g : Graph) (nodes : List Node) :
    nodes.foldl addNode g =
      { g with nodes := g.nodes.putAll (nodes.map fun node => (node.name, node)) } := by
  induction nodes generalizing g with
  | nil => rfl
  | cons node nodes ih =>
    rw [List.foldl_cons, ih]
    rfl

/-- The nodes of a workspace are the projects that are searched, in the same order. -/
theorem projects_foldl_addNode (location : Option String) (nodes : Table Node) :
    (nodes.values.foldl addNode { location }).projects = Inference.projectsOf nodes := by
  rw [foldl_addNode_eq, projects, Inference.projectsOf]
  have hmap := Table.map_ofList Node.project (nodes.values.map fun node => (node.name, node))
  rw [List.map_map] at hmap
  exact hmap

/-! ## Adding dependencies -/

/-- Valid dependencies of which no two have the same ends are all accepted, one after the other. -/
theorem foldl_addDependency_eq {g : Graph} {found : List Dependency}
    (valid : ∀ d ∈ found, d.invalidity g.projects = none)
    (nodup : ((g.edges ++ found).map Dependency.ends).Nodup) :
    found.foldl addDependency g = { g with edges := g.edges ++ found } := by
  induction found generalizing g with
  | nil => rw [List.foldl_nil, List.append_nil]
  | cons d found ih =>
    have hfresh : d.ends ∉ g.edges.map Dependency.ends := by
      rw [List.map_append, List.nodup_append] at nodup
      intro hmem
      exact nodup.2.2 d.ends hmem d.ends (by simp) rfl
    have hadd : g.addDependency d = { g with edges := g.edges ++ [d] } := by
      rw [addDependency, if_pos (accepts_iff.2 ⟨valid d List.mem_cons_self, hfresh⟩)]
    rw [List.foldl_cons, hadd, ih]
    · rw [List.append_assoc]
      rfl
    · exact fun e he => valid e (List.mem_cons_of_mem _ he)
    · rw [List.append_assoc]
      exact nodup

/-- Offering dependencies leaves the nodes as they are. -/
theorem nodes_foldl_addDependency (g : Graph) (offered : List Dependency) :
    (offered.foldl addDependency g).nodes = g.nodes := by
  induction offered generalizing g with
  | nil => rfl
  | cons d offered ih => rw [List.foldl_cons, ih, nodes_addDependency]

/-- The nodes of a graph are those it was made of, by their names. -/
theorem nodes_ofResults {location : Option String} {nodes : Table Node}
    {offered : List Dependency} : (ofResults location nodes offered).nodes =
      Table.ofList (nodes.values.map fun node => (node.name, node)) := by
  rw [ofResults, nodes_foldl_addDependency, foldl_addNode_eq]
  rfl

/-! ## Listing dependencies -/

/-- Elements whose keys follow the order of some keys, each used once, are put together again by
    taking them key by key. -/
theorem flatMap_filter_key {α : Type} {key : α → String} {keys : List String} {xs : List α}
    (nodup : keys.Nodup) (order : (xs.map key).Sublist keys) :
    (keys.flatMap fun k => xs.filter fun x => key x == k) = xs := by
  induction keys generalizing xs with
  | nil =>
    have hxs : xs = [] := by simpa using order
    rw [hxs]
    rfl
  | cons k keys ih =>
    rw [List.nodup_cons] at nodup
    -- Elements that follow the other keys do not have this one
    have hnone : ∀ ys : List α, (ys.map key).Sublist keys →
        ys.filter (fun y => key y == k) = [] := by
      intro ys hys
      rw [List.filter_eq_nil_iff]
      intro y hy hkey
      exact nodup.1 (hys.subset (beq_iff_eq.1 hkey ▸ List.mem_map_of_mem hy))
    rw [List.flatMap_cons]
    rcases List.sublist_cons_iff.1 order with hrest | ⟨r, hr, hrest⟩
    · -- no element has this key
      rw [hnone xs hrest, List.nil_append, ih nodup.2 hrest]
    · -- the first element has it, and no other
      obtain ⟨x, ys, rfl, hx, rfl⟩ := List.map_eq_cons_iff.1 hr
      have hothers : (keys.flatMap fun j => (x :: ys).filter fun y => key y == j) =
          keys.flatMap fun j => ys.filter fun y => key y == j := by
        rw [List.flatMap_def, List.flatMap_def]
        congr 1
        apply List.map_congr_left
        intro j hj
        rw [List.filter_cons_of_neg]
        rw [hx, beq_iff_eq]
        exact fun hkj => nodup.1 (hkj ▸ hj)
      rw [hothers, ih nodup.2 hrest, List.filter_cons_of_pos (by rw [hx, beq_self_eq_true]),
        hnone ys hrest]
      rfl

/-- Where dependencies come project by project, in the order of some names, listing them name by
    name gives them back. -/
theorem flatMap_edges_from {keys : List String} {ps : List Project}
    {f : Project → List Dependency} (nodup : keys.Nodup)
    (own : ∀ p ∈ ps, ∀ d ∈ f p, d.source = p.name)
    (order : (ps.map Project.name).Sublist keys) :
    (keys.flatMap fun key => (ps.flatMap f).filter fun d => d.source == key) = ps.flatMap f := by
  calc (keys.flatMap fun key => (ps.flatMap f).filter fun d => d.source == key)
      = keys.flatMap fun key => (ps.filter fun p => p.name == key).flatMap f := by
        congr 1
        funext key
        exact (flatMap_filter_source own fun name => name == key).symm
    _ = (keys.flatMap fun key => ps.filter fun p => p.name == key).flatMap f :=
        List.flatMap_assoc.symm
    _ = ps.flatMap f := by rw [flatMap_filter_key nodup order]

/-! ## The graph of a search -/

/-- The projects of nodes are entered under their names. -/
theorem keyedByName_projectsOf (nodes : Table Node) :
    KeyedByName (Inference.projectsOf nodes) where
  nodup := Table.nodup_keys_ofList _
  name_eq entry hentry := by
    obtain ⟨node, -, rfl⟩ := List.mem_map.1 (Table.mem_of_mem_ofList hentry)
    rfl

/-- A graph of nodes accepts, one after the other, what is found for visited projects of them, and
    lists it as it was found. -/
theorem ofResults_dependenciesOf (location : Option String) (nodes : Table Node) (site : Site)
    (hsite : site.atlas.projects = Inference.projectsOf nodes) (scanner : IncludeScanner)
    (changed : Option (List String)) {found : List Dependency}
    (hfound : found = (Inference.visited (Inference.projectsOf nodes) changed).flatMap
      (site.dependenciesOf scanner)) :
    (∀ before d after, found = before ++ d :: after →
      (ofResults location nodes before).accepts d = true) ∧
    (ofResults location nodes found).dependencies = found := by
  have keyed := keyedByName_projectsOf nodes
  have hnames := Inference.nodup_names_visited keyed changed
  have hnodup : (found.map Dependency.ends).Nodup :=
    hfound ▸ site.nodup_ends_dependenciesOf scanner hnames
  have hprojects := projects_foldl_addNode location nodes
  have hvalid : ∀ d ∈ found,
      d.invalidity (nodes.values.foldl addNode { location }).projects = none := by
    intro d hd
    rw [hfound] at hd
    obtain ⟨p, -, hdp⟩ := List.mem_flatMap.1 hd
    rw [hprojects, ← hsite]
    exact Site.valid_of_mem_dependenciesOf hdp
  have hedges : (nodes.values.foldl addNode { location }).edges = [] := by
    rw [foldl_addNode_eq]
  constructor
  · -- what was added before a dependency has other ends, since no two have the same
    intro before d after hsplit
    rw [hsplit, List.map_append, List.map_cons] at hnodup
    have hbefore := foldl_addDependency_eq
      (fun e he => hvalid e (by rw [hsplit]; exact List.mem_append_left _ he))
      (by rw [hedges, List.nil_append]; exact (List.nodup_append.1 hnodup).1)
    rw [ofResults, hbefore, accepts_iff, hedges, List.nil_append]
    refine ⟨hvalid d (by rw [hsplit]; simp), ?_⟩
    intro hmem
    exact (List.nodup_append.1 hnodup).2.2 d.ends hmem d.ends List.mem_cons_self rfl
  · have hall := foldl_addDependency_eq hvalid (by rw [hedges, List.nil_append]; exact hnodup)
    have hkeys : (nodes.values.foldl addNode { location }).nodes.keys =
        (Inference.projectsOf nodes).keys := by
      rw [← hprojects, projects, Table.keys, Table.keys, List.map_map]
      rfl
    -- the graph lists its edges by source, in the order of the projects
    rw [ofResults, hall]
    unfold dependencies edgesFrom
    rw [hedges, List.nil_append, hkeys, hfound]
    exact flatMap_edges_from keyed.nodup (fun p _ d hd => Site.source_of_mem_dependenciesOf hd)
      (Inference.names_visited_sublist keyed changed)

/-- A scan makes the graph of the nodes of a workspace and of what is found between them. -/
theorem scan_eq_ok {t : Inference.Target} {settings : Settings} {changed : Option (List String)}
    {nodes : Table Node} {found : List Dependency} {warnings : List String}
    (hnodes : t.nodes settings = .ok nodes)
    (hfound : t.dependencies settings (Inference.projectsOf nodes) changed =
      .ok (found, warnings)) :
    t.scan settings changed = .ok (ofResults (some t.location) nodes found,
      warnings ++ warningsOf { location := some t.location } nodes.values) := by
  rw [Inference.Target.scan, hnodes]
  simp only [bind, Except.bind, hfound]

/-- The graph of a scan is made of the nodes of the workspace. -/
theorem exists_nodes_of_scan {t : Inference.Target} {settings : Settings}
    {changed : Option (List String)} {g : Graph} {warnings : List String}
    (h : t.scan settings changed = .ok (g, warnings)) :
    ∃ nodes found, t.nodes settings = .ok nodes ∧ g = ofResults (some t.location) nodes found := by
  unfold Inference.Target.scan at h
  cases hnodes : t.nodes settings with
  | error e =>
    rw [hnodes] at h
    exact nomatch h
  | ok nodes =>
    simp only [hnodes, bind, Except.bind] at h
    cases hfound : t.dependencies settings (Inference.projectsOf nodes) changed with
    | error e =>
      rw [hfound] at h
      exact nomatch h
    | ok result =>
      rw [hfound] at h
      exact ⟨nodes, result.1, rfl, (Prod.mk.inj (Except.ok.inj h)).1.symm⟩

/-- Whatever the nodes are, also where some share a name, and whichever projects are visited: unless
    the compiler of the settings cannot be used, the graph of the nodes accepts everything that is
    found between their projects and lists it as it was found. A scan of a workspace with these
    nodes makes that graph. -/
theorem ofResults_keeps_found (t : Inference.Target) (settings : Settings)
    (location : Option String) (nodes : Table Node) (changed : Option (List String)) :
    (∃ c detail, settings.mode = .compiler c ∧ t.toolchain.problem c = some detail ∧
      t.dependencies settings (Inference.projectsOf nodes) changed =
        .error (.evidence (.choice (.unavailable c detail)))) ∨
    (∃ found warnings,
      t.dependencies settings (Inference.projectsOf nodes) changed = .ok (found, warnings) ∧
      (∀ before d after, found = before ++ d :: after →
        (ofResults location nodes before).accepts d = true) ∧
      (ofResults location nodes found).dependencies = found ∧
      (t.nodes settings = .ok nodes →
        ∃ said, t.scan settings changed =
          .ok (ofResults (some t.location) nodes found, said))) := by
  obtain ⟨warnings, hblocks⟩ :=
    t.dependencies_eq_blocks settings (keyedByName_projectsOf nodes) changed
  cases hcheck : t.toolchain.check settings.mode with
  | error e =>
    obtain ⟨c, detail, hmode, hproblem, rfl⟩ := Toolchain.check_eq_error_iff.1 hcheck
    rw [hcheck] at hblocks
    exact Or.inl ⟨c, detail, hmode, hproblem, hblocks⟩
  | ok compiler =>
    rw [hcheck] at hblocks
    obtain ⟨haccepts, hlisted⟩ := ofResults_dependenciesOf location nodes
      (t.site (Inference.projectsOf nodes)) rfl settings.chosenScanner changed rfl
    exact Or.inr ⟨_, warnings, hblocks, haccepts, hlisted, fun hnodes =>
      ⟨_, scan_eq_ok hnodes hblocks⟩⟩

end Graph

end MakeAtlas
