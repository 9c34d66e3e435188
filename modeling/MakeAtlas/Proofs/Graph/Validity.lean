import MakeAtlas.Proofs.Graph.Listing

/-!
# What becomes of an edge's validity

A dependency is checked when it is offered, and an accepted edge is never taken away. What the check
rested on may change: the source of an edge may be replaced by a project of its name at another
root, to which the file that shows the edge does not belong.

## Key results

- `invalidity_of_known`: between known projects, only the place of the file can be wrong
- `valid_unless_source_moved`: an edge stays valid unless its source was moved away from the file
- `stale_edge_of_movedSource`: an edge that is left behind by its source
-/

namespace MakeAtlas

/-- A dependency between known projects with a named file is valid if the file belongs to the root
    of the source, and otherwise only the place of the file is wrong. -/
theorem Dependency.invalidity_of_known {d : Dependency} {projects : Table Project} {p : Project}
    (hsource : projects.get? d.source = some p) (htarget : projects.has d.target = true)
    (hnamed : d.evidenceFile.isEmpty = false) :
    d.invalidity projects =
      if Path.belongsTo d.evidenceFile p.root then none
      else some (.foreignEvidence d.evidenceFile p.root) := by
  rw [invalidity, hsource]
  simp only [htarget, hnamed, Bool.not_true, Bool.false_eq_true, if_false]

namespace Graph

/-- The root of the project of a name. -/
def rootOf? (g : Graph) (name : String) : Option String :=
  (g.nodes.get? name).map Node.root

/-- A project that is known stays known. -/
theorem mem_keys_applyAll {g : Graph} {name : String} (h : name ∈ g.nodes.keys)
    (changes : List Change) : name ∈ (g.applyAll changes).nodes.keys := by
  rw [keys_applyAll]
  exact List.mem_append_left _ h

/-- What was valid once is valid after further changes, or its source has been replaced by a project
    at another root to which the file does not belong. -/
theorem valid_or_source_moved {g : Graph} {d : Dependency} (h : d.invalidity g.projects = none)
    (later : List Change) :
    d.invalidity (g.applyAll later).projects = none ∨
      ∃ n, Change.node n ∈ later ∧ n.name = d.source ∧ g.rootOf? d.source ≠ some n.root ∧
        (g.applyAll later).rootOf? d.source = some n.root ∧
        d.invalidity (g.applyAll later).projects =
          some (.foreignEvidence d.evidenceFile n.root) := by
  obtain ⟨p, hsource, htarget, hnamed, hbelongs⟩ := Dependency.invalidity_eq_none_iff.1 h
  rw [get?_projects] at hsource
  obtain ⟨old, hold, rfl⟩ := Option.map_eq_some_iff.1 hsource
  have hknown : (g.applyAll later).projects.has d.target = true := by
    rw [Table.has_eq_true_iff, keys_projects]
    rw [Table.has_eq_true_iff, keys_projects] at htarget
    exact mem_keys_applyAll htarget later
  have hnow := get?_nodes_applyAll g later d.source
  cases hlast : lastNode d.source later with
  | none =>
    -- the source is the project that it was
    rw [hlast, Option.none_or, hold] at hnow
    left
    exact Dependency.invalidity_eq_none_iff.2
      ⟨old.project, by rw [get?_projects, hnow]; rfl, hknown, hnamed, hbelongs⟩
  | some n =>
    rw [hlast, Option.some_or] at hnow
    have hvalid := Dependency.invalidity_of_known (d := d) (p := n.project)
      (by rw [get?_projects, hnow]; rfl) hknown hnamed
    by_cases hstill : Path.belongsTo d.evidenceFile n.root = true
    · left
      exact hvalid.trans (if_pos hstill)
    · right
      obtain ⟨hmem, hname⟩ := mem_of_lastNode hlast
      refine ⟨n, hmem, hname, ?_, by rw [rootOf?, hnow]; rfl, hvalid.trans (if_neg hstill)⟩
      -- the file belongs to the root that the source had before
      intro hroot
      rw [rootOf?, hold, Option.map_some, Option.some.injEq] at hroot
      exact hstill (hroot ▸ hbelongs)

/-- Every listed edge was valid among the projects there were when it was accepted, and joins two
    projects that are still known. It is valid now, or else its source has since been replaced by a
    project of its name at another root, and the file that shows the edge does not belong to that
    root. -/
theorem valid_unless_source_moved (location : Option String) (changes : List Change) :
    ∀ d ∈ (after location changes).dependencies,
      d.source ∈ (after location changes).projects.keys ∧
      d.target ∈ (after location changes).projects.keys ∧
      ∃ before later, changes = before ++ .dependency d :: later ∧
        d.invalidity (after location before).projects = none ∧
        (d.invalidity (after location changes).projects = none ∨
          ∃ n, Change.node n ∈ later ∧ n.name = d.source ∧
            (after location before).rootOf? d.source ≠ some n.root ∧
            (after location changes).rootOf? d.source = some n.root ∧
            d.invalidity (after location changes).projects =
              some (.foreignEvidence d.evidenceFile n.root)) := by
  intro d hd
  have h := coherent_after location changes
  have hedge : d ∈ (after location changes).edges := (dependencies_perm_edges h).mem_iff.1 hd
  obtain ⟨hsource, htarget⟩ := h.ends_known d hedge
  obtain ⟨before, later, rfl, haccepts⟩ := exists_accepted_of_mem_edges hedge
  have hvalid := (accepts_iff.1 haccepts).1
  rw [keys_projects]
  refine ⟨hsource, htarget, before, later, rfl, hvalid, ?_⟩
  rw [after_append]
  rcases valid_or_source_moved hvalid (.dependency d :: later) with hnow | ⟨n, hn, hmoved⟩
  · exact Or.inl hnow
  · rcases List.mem_cons.1 hn with hfirst | hn
    · cases hfirst
    · exact Or.inr ⟨n, hn, hmoved⟩

/-- A dependency of a program on a library, shown by a line of the program. -/
def usesLibrary : Dependency :=
  ⟨"app", "lib", "app/main.c", some 1, by decide, by decide⟩

/-- The program and the library are added, one comes to depend on the other, and then the program is
    moved to another root. -/
def movedSource : List Change :=
  [.node { root := "lib", name := "lib", makefile := "lib/Makefile" },
    .node { root := "app", name := "app", makefile := "app/Makefile" },
    .dependency usesLibrary,
    .node { root := "other", name := "app", makefile := "other/Makefile" }]

theorem valid_unless_source_moved_movedSource :
    usesLibrary ∈ (after none movedSource).dependencies ∧
      usesLibrary.source ∈ (after none movedSource).projects.keys ∧
      usesLibrary.target ∈ (after none movedSource).projects.keys ∧
      ∃ before later, movedSource = before ++ .dependency usesLibrary :: later ∧
        usesLibrary.invalidity (after none before).projects = none ∧
        (usesLibrary.invalidity (after none movedSource).projects = none ∨
          ∃ n, Change.node n ∈ later ∧ n.name = usesLibrary.source ∧
            (after none before).rootOf? usesLibrary.source ≠ some n.root ∧
            (after none movedSource).rootOf? usesLibrary.source = some n.root ∧
            usesLibrary.invalidity (after none movedSource).projects =
              some (.foreignEvidence usesLibrary.evidenceFile n.root)) := by
  have listed : usesLibrary ∈ (after none movedSource).dependencies := by decide +kernel
  exact ⟨listed, valid_unless_source_moved none movedSource usesLibrary listed⟩

/-- When a program is moved to another root, its edge to the library stays, and so does the file
    that shows it, outside of the new root. -/
theorem stale_edge_of_movedSource :
    ¬ ∀ d ∈ (after none movedSource).dependencies,
      d.invalidity (after none movedSource).projects = none := by
  decide +kernel

end Graph

end MakeAtlas
