import MakeAtlas.Proofs.Inference.Blocks
import Mathlib.Data.List.Nodup

/-!
# Dependencies rest on the first reference that shows them

Which dependencies a workspace has, said through the references of its projects: one for each pair
of projects of which the first has a reference that leads to the second. Of all such references the
first one is the evidence, where sources come before the Makefile.

## Key results

- `mem_dependenciesOf_iff`: the dependencies of one project
- `dependencies_shown_by_references`: the dependencies of a workspace
-/

namespace MakeAtlas

namespace Site

/-- A reference of a project leads to a project if it is resolved to a dependency on it. -/
def LeadsTo (site : Site) (p : Project) (r : Reference) (target : String) : Prop :=
  ∃ d, (site.resolve p r).outcome = .resolved d ∧ d.target = target

/-- A dependency of a project has its evidence from the first of some references that leads to its
    target. -/
def ShownFirst (site : Site) (p : Project) (references : List Reference) (d : Dependency) : Prop :=
  ∃ before r after, references = before ++ r :: after ∧ site.LeadsTo p r d.target ∧
    (∀ earlier ∈ before, ¬ site.LeadsTo p earlier d.target) ∧ d.evidence = r.file ∧ d.line = r.line

/-- The dependencies of a project are what its references are resolved to, each as the first
    reference to its target gives it. -/
theorem mem_dependenciesOf_iff {site : Site} {scanner : IncludeScanner} {p : Project}
    {d : Dependency} :
    d ∈ site.dependenciesOf scanner p ↔
      ∃ before r after, site.references scanner p = before ++ r :: after ∧
        (site.resolve p r).outcome = .resolved d ∧
        ∀ earlier ∈ before, ¬ site.LeadsTo p earlier d.target := by
  have hdependency : ∀ (r : Reference) (e : Dependency),
      (site.resolve p r).outcome.dependency? = some e ↔
        (site.resolve p r).outcome = .resolved e := by
    intro r e
    cases (site.resolve p r).outcome <;> simp [Outcome.dependency?]
  rw [dependenciesOf, Resolution.collapse, Resolution.dependencies, List.filterMap_map,
    mem_distinctBy_filterMap_iff]
  refine exists_congr fun before => exists_congr fun r => exists_congr fun after => ?_
  simp only [Function.comp_apply, hdependency]
  refine and_congr_right fun _ => and_congr_right fun hd => forall₂_congr fun earlier _ => ?_
  -- Dependencies of one project have the same ends if they have the same target
  constructor
  · rintro hends ⟨e, he, htarget⟩
    refine hends e he ?_
    rw [Dependency.ends, Dependency.ends, htarget, (resolve_eq_resolved he).1,
      (resolve_eq_resolved hd).1]
  · intro hleads e he hends
    exact hleads ⟨e, he, congrArg Prod.snd hends⟩

/-- A dependency of a project is shown by the first of its references that leads to its target. -/
theorem shownFirst_of_mem_dependenciesOf {site : Site} {scanner : IncludeScanner} {p : Project}
    {d : Dependency} (h : d ∈ site.dependenciesOf scanner p) :
    site.ShownFirst p (site.references scanner p) d := by
  obtain ⟨before, r, after, hreferences, hd, hbefore⟩ := mem_dependenciesOf_iff.1 h
  obtain ⟨-, hfile, hline, -⟩ := resolve_eq_resolved hd
  exact ⟨before, r, after, hreferences, ⟨d, hd, rfl⟩, hbefore, hfile, hline⟩

/-- What is shown by references of two lists, one after the other, is shown by the first list alone
    if that list shows it at all. -/
theorem shownFirst_of_append {site : Site} {p : Project} {first second : List Reference}
    {d : Dependency} (h : site.ShownFirst p (first ++ second) d)
    (hfirst : ∃ r ∈ first, site.LeadsTo p r d.target) : site.ShownFirst p first d := by
  obtain ⟨before, r, after, happend, hr, hbefore, hevidence⟩ := h
  obtain ⟨r', hr', hleads⟩ := hfirst
  rcases List.append_eq_append_iff.1 happend with ⟨rest, rfl, -⟩ | ⟨rest, rfl, hrest⟩
  · -- the first list would stand before the evidence as a whole
    exact absurd hleads (hbefore r' (List.mem_append_left _ hr'))
  · cases rest with
    | nil =>
      -- nothing of the first list is left for the evidence
      rw [List.append_nil] at hr'
      exact absurd hleads (hbefore r' hr')
    | cons r'' rest =>
      rw [List.cons_append, List.cons.injEq] at hrest
      obtain ⟨rfl, -⟩ := hrest
      exact ⟨before, r, rest, rfl, hr, hbefore, hevidence⟩

/-- A project has a dependency on every project that one of its references leads to. -/
theorem target_mem_dependenciesOf_iff {site : Site} {scanner : IncludeScanner} {p : Project}
    {target : String} :
    (∃ d ∈ site.dependenciesOf scanner p, d.target = target) ↔
      ∃ r ∈ site.references scanner p, site.LeadsTo p r target := by
  constructor
  · intro h
    obtain ⟨d, hd, rfl⟩ := h
    obtain ⟨before, r, after, hreferences, hr, -⟩ := mem_dependenciesOf_iff.1 hd
    exact ⟨r, by rw [hreferences]; simp, d, hr, rfl⟩
  · intro h
    obtain ⟨r, hr, d, hd, rfl⟩ := h
    have hmem : d ∈ Resolution.dependencies
        ((site.references scanner p).map (site.resolve p)) :=
      Resolution.mem_dependencies.2 ⟨_, List.mem_map_of_mem hr, hd⟩
    -- the dependency that is kept for the same ends may be another one
    have hkey : d.ends ∈ (site.dependenciesOf scanner p).map Dependency.ends :=
      key_mem_distinctBy hmem
    obtain ⟨e, he, hends⟩ := List.mem_map.1 hkey
    exact ⟨e, he, congrArg Prod.snd hends⟩

end Site

/-- The dependencies of visited projects are exactly what the references of these projects lead to,
    each with the evidence of the first such reference. -/
structure ShownByReferences (site : Site) (scanner : IncludeScanner) (visited : List Project)
    (found : List Dependency) : Prop where
  /-- Two names are joined exactly if a reference of a visited project of the first name leads to
      the second. -/
  joined_iff : ∀ source target, (source, target) ∈ found.map Dependency.ends ↔
    ∃ p ∈ visited, p.name = source ∧
      ∃ r ∈ site.references scanner p, site.LeadsTo p r target
  /-- There is one dependency for each pair of names. -/
  ends_nodup : (found.map Dependency.ends).Nodup
  /-- The evidence is the first reference that leads to the target. -/
  shown_first : ∀ d ∈ found, ∃ p ∈ visited, p.name = d.source ∧
    site.ShownFirst p (site.references scanner p) d
  /-- If what the sources include leads to the target, then the evidence is a source. -/
  sources_preferred : ∀ d ∈ found, ∀ p ∈ visited, p.name = d.source →
    (∃ r ∈ site.includeReferences scanner p, site.LeadsTo p r d.target) →
    site.ShownFirst p (site.includeReferences scanner p) d
  /-- Both ends are known projects, and they differ. -/
  ends_known : ∀ d ∈ found, d.source ∈ site.atlas.projects.keys ∧
    d.target ∈ site.atlas.projects.keys ∧ d.source ≠ d.target

/-- The dependencies of projects of different names, one project after the other, are what the
    references of these projects lead to. -/
theorem shownByReferences_flatMap {site : Site} {scanner : IncludeScanner} {ps : List Project}
    (nodup : (ps.map Project.name).Nodup) :
    ShownByReferences site scanner ps (ps.flatMap (site.dependenciesOf scanner)) where
  joined_iff source target := by
    rw [List.mem_map]
    constructor
    · intro h
      obtain ⟨d, hmem, hends⟩ := h
      obtain ⟨p, hp, hd⟩ := List.mem_flatMap.1 hmem
      obtain ⟨rfl, rfl⟩ := Prod.mk.inj hends
      exact ⟨p, hp, (Site.source_of_mem_dependenciesOf hd).symm,
        Site.target_mem_dependenciesOf_iff.1 ⟨d, hd, rfl⟩⟩
    · intro h
      obtain ⟨p, hp, rfl, hleads⟩ := h
      obtain ⟨d, hd, rfl⟩ := Site.target_mem_dependenciesOf_iff.2 hleads
      refine ⟨d, List.mem_flatMap.2 ⟨p, hp, hd⟩, ?_⟩
      rw [Dependency.ends, Site.source_of_mem_dependenciesOf hd]
  ends_nodup := site.nodup_ends_dependenciesOf scanner nodup
  shown_first d hmem := by
    obtain ⟨p, hp, hd⟩ := List.mem_flatMap.1 hmem
    exact ⟨p, hp, (Site.source_of_mem_dependenciesOf hd).symm,
      Site.shownFirst_of_mem_dependenciesOf hd⟩
  sources_preferred d hmem p hp hname hincludes := by
    obtain ⟨q, hq, hd⟩ := List.mem_flatMap.1 hmem
    -- The project of the dependency's source is the only one of its name
    have hqp : q = p := by
      refine List.inj_on_of_nodup_map nodup hq hp ?_
      rw [hname, Site.source_of_mem_dependenciesOf hd]
    subst hqp
    exact Site.shownFirst_of_append (Site.shownFirst_of_mem_dependenciesOf hd) hincludes
  ends_known d hmem := by
    obtain ⟨p, -, hd⟩ := List.mem_flatMap.1 hmem
    obtain ⟨source, hsource, htarget, -, -⟩ :=
      Dependency.invalidity_eq_none_iff.1 (Site.valid_of_mem_dependenciesOf hd)
    exact ⟨List.mem_map_of_mem (Table.mem_of_get? hsource), Table.has_eq_true_iff.1 htarget,
      d.source_ne_target⟩

/-- Whatever the files, the compilers and the settings are, and whichever projects are visited: the
    search for dependencies fails only because the compiler of the settings cannot be used, and
    otherwise finds exactly what the references of the visited projects lead to, each pair of
    projects once and with the first evidence there is. -/
theorem dependencies_shown_by_references (t : Inference.Target) (settings : Settings)
    {projects : Table Project} (keyed : KeyedByName projects) (changed : Option (List String)) :
    (∃ c detail, settings.mode = .compiler c ∧ t.toolchain.problem c = some detail ∧
      t.dependencies settings projects changed =
        .error (.evidence (.choice (.unavailable c detail)))) ∨
    (∃ found warnings, t.dependencies settings projects changed = .ok (found, warnings) ∧
      ShownByReferences (t.site projects) settings.chosenScanner
        (Inference.visited projects changed) found) := by
  obtain ⟨warnings, hblocks⟩ := t.dependencies_eq_blocks settings keyed changed
  cases hcheck : t.toolchain.check settings.mode with
  | error e =>
    obtain ⟨c, detail, hmode, hproblem, rfl⟩ := Toolchain.check_eq_error_iff.1 hcheck
    rw [hcheck] at hblocks
    exact Or.inl ⟨c, detail, hmode, hproblem, hblocks⟩
  | ok compiler =>
    rw [hcheck] at hblocks
    exact Or.inr ⟨_, warnings, hblocks,
      shownByReferences_flatMap (Inference.nodup_names_visited keyed changed)⟩

/-- In a workspace of a program and a library, whose sources are read without a compiler, a search
    that asks twice for the program and once for a project that is gone finds what the program's
    files show. -/
theorem dependencies_shown_by_references_sample :
    KeyedByName Inference.sampleProjects ∧
      ∃ found warnings,
        Inference.sampleTarget.dependencies { mode := .manual } Inference.sampleProjects
          (some ["app", "gone", "app"]) = .ok (found, warnings) ∧
        ShownByReferences (Inference.sampleTarget.site Inference.sampleProjects)
          (Settings.chosenScanner { mode := .manual })
          (Inference.visited Inference.sampleProjects (some ["app", "gone", "app"])) found := by
  refine ⟨by decide, ?_⟩
  apply (dependencies_shown_by_references Inference.sampleTarget { mode := .manual } (by decide)
    (some ["app", "gone", "app"])).resolve_left
  intro h
  obtain ⟨c, detail, hmode, _⟩ := h
  exact nomatch hmode

end MakeAtlas
