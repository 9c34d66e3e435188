import MakeAtlas.Proofs.Inference.Blocks
import MakeAtlas.Proofs.Resolution.NearestRoot
import MakeAtlas.Proofs.SameMembers

/-!
# The order of the projects

Projects are entered in the order in which they are found. Sorting the index leaves roots of one
length, and projects at one root, in that order; yet no two roots of one length hold the same path,
and several owners of a path are told in the order of their names. So what a reference leads to does
not hang on the order, and neither does what is found for a project.

## Key results

- `owners_perm`: a path belongs to the same projects
- `outcome_perm`: a reference leads to the same
- `dependenciesOf_perm`: a project has the same dependencies, in the same order
- `dependencies_of_any_order`: the search over projects in one order and in another
-/

namespace MakeAtlas

/-! ## Owners -/

namespace RootIndex

variable {location root path : String} {projects others : List Project}

theorem IsRoot.perm (perm : projects.Perm others) (h : IsRoot location projects root) :
    IsRoot location others root :=
  h.imp fun _ hp => ⟨perm.subset hp.1, hp.2⟩

theorem IsLongest.perm (perm : projects.Perm others) (h : IsLongest location projects root path) :
    IsLongest location others root path :=
  ⟨h.isRoot.perm perm, h.holds, fun other ho => h.longest other (ho.perm perm.symm)⟩

/-- A path belongs to the same projects whatever order they are entered in. -/
theorem owners_perm (perm : projects.Perm others) (path : String) :
    ((ofProjects location projects).owners path).Perm
      ((ofProjects location others).owners path) := by
  rcases owners_eq_namesAt_or_nil location projects path with ⟨root, hroot, howners⟩ | ⟨hnone, hnil⟩
  · rcases owners_eq_namesAt_or_nil location others path with ⟨other, hother, hothers⟩ | ⟨hnone, -⟩
    · rw [howners, hothers, ← (hroot.perm perm).unique hother]
      exact (perm.filter _).map _
    · exact absurd hroot.holds (hnone root (hroot.isRoot.perm perm))
  · rcases owners_eq_namesAt_or_nil location others path with ⟨other, hother, -⟩ | ⟨-, hothers⟩
    · exact absurd hother.holds (hnone other (hother.isRoot.perm perm.symm))
    · rw [hnil, hothers]

end RootIndex

/-! ## References -/

/-- Two outcomes that nobody can tell apart: what is kept of several owners is their order, which
    the reason does not tell. -/
structure Outcome.SaysAs (outcome other : Outcome) : Prop where
  status : outcome.status = other.status
  dependency : outcome.dependency? = other.dependency?
  reason : ∀ note, outcome.reason? note = other.reason? note

theorem Outcome.SaysAs.refl (outcome : Outcome) : outcome.SaysAs outcome :=
  ⟨rfl, rfl, fun _ => rfl⟩

/-- Two resolutions of one reference that nobody can tell apart. -/
structure Resolution.SaysAs (resolution other : Resolution) : Prop where
  source : resolution.source = other.source
  candidate : resolution.candidate = other.candidate
  outcome : resolution.outcome.SaysAs other.outcome

theorem Resolution.SaysAs.of_outcome {outcome other : Outcome} (h : outcome.SaysAs other)
    (source candidate : String) :
    SaysAs ⟨source, candidate, outcome⟩ ⟨source, candidate, other⟩ :=
  ⟨rfl, rfl, h⟩

/-- Several owners are told in the order of their names. -/
theorem Rejection.message_ambiguous_perm {owners others : List String} (perm : owners.Perm others)
    (note : Record.Cause → String) :
    (Rejection.ambiguous owners).message note = (Rejection.ambiguous others).message note :=
  congrArg (fun names => "ambiguous owners: " ++ String.intercalate ", " names)
    (mergeSort_names_eq_of_perm perm)

theorem Dependency.invalidity_perm {projects others : Table Project} (perm : projects.Perm others)
    (nodup : projects.keys.Nodup) (d : Dependency) :
    d.invalidity projects = d.invalidity others := by
  rw [invalidity, invalidity, Table.get?_perm perm nodup, Table.has_perm perm]

namespace Atlas

variable {projects others : Table Project}

/-- Whether a dependency holds is the same among projects in one order and in another. -/
theorem found_perm (perm : projects.Perm others) (nodup : projects.keys.Nodup)
    (location source target evidence : String) (line : Option Int) :
    (ofProjects location projects).found source target evidence line =
      (ofProjects location others).found source target evidence line := by
  unfold found
  cases Dependency.ofFound source target evidence line with
  | error e => rfl
  | ok d => simp only [ofProjects, Dependency.invalidity_perm perm nodup]

/-- What a reference leads to is the same among projects in one order and in another. -/
theorem outcome_perm (perm : projects.Perm others) (nodup : projects.keys.Nodup) (location : String)
    (source : Project) (candidate evidence : String) (line : Option Int) :
    Outcome.SaysAs ((ofProjects location projects).outcome source candidate evidence line)
      ((ofProjects location others).outcome source candidate evidence line) := by
  have howners : ((ofProjects location projects).index.owners
        ((ofProjects location projects).target source candidate)).Perm
      ((ofProjects location others).index.owners
        ((ofProjects location others).target source candidate)) :=
    RootIndex.owners_perm (perm.map Prod.snd) _
  unfold outcome
  by_cases hclimbs : Path.climbs candidate = true
  · rw [if_pos hclimbs, if_pos hclimbs]
    generalize (ofProjects location projects).index.owners _ = owners at howners ⊢
    generalize (ofProjects location others).index.owners _ = owners' at howners ⊢
    match owners, howners with
    | [], howners =>
      obtain rfl := howners.nil_eq
      exact .refl _
    | [owner], howners =>
      obtain rfl := List.singleton_perm.1 howners
      dsimp only
      rw [found_perm perm nodup]
      exact .refl _
    | first :: second :: rest, howners =>
      obtain ⟨first', second', rest', rfl⟩ : ∃ a b more, owners' = a :: b :: more := by
        match owners', howners.length_eq with
        | a :: b :: more, _ => exact ⟨a, b, more, rfl⟩
      refine ⟨rfl, rfl, fun note => ?_⟩
      simp only [Outcome.reason?, Rejection.message_ambiguous_perm howners]
  · rw [if_neg hclimbs, if_neg hclimbs]
    exact .refl _

end Atlas

/-! ## The search for dependencies -/

/-- What the files of a project mention depends on the files, the compilers and the workspace's
    path; the projects have no say in it. -/
theorem Site.references_congr {site other : Site} (disk : site.disk = other.disk)
    (toolchain : site.toolchain = other.toolchain)
    (location : site.atlas.index.location = other.atlas.index.location) (scanner : IncludeScanner)
    (p : Project) : site.references scanner p = other.references scanner p := by
  have hfolder : site.folderOf p = other.folderOf p := by rw [folderOf, folderOf, location]
  have hmentions : site.sourceMentions scanner p = other.sourceMentions scanner p := by
    unfold sourceMentions
    rw [disk, toolchain, hfolder]
  have htext : site.makefileText p = other.makefileText p := by
    unfold makefileText
    rw [disk, hfolder]
  unfold references includeReferences makefileReferences
  rw [hmentions, htext]

namespace Inference

variable {projects others : Table Project}

/-- A project has the same dependencies, in the same order and with the same evidence, among
    projects in one order and in another. -/
theorem dependenciesOf_perm (perm : projects.Perm others) (nodup : projects.keys.Nodup) (t : Target)
    (scanner : IncludeScanner) (p : Project) :
    (t.site projects).dependenciesOf scanner p = (t.site others).dependenciesOf scanner p := by
  have hreferences :
      (t.site projects).references scanner p = (t.site others).references scanner p :=
    Site.references_congr (by simp only [Target.site]) (by simp only [Target.site])
      (by simp only [Target.site, Atlas.ofProjects, RootIndex.ofProjects]) scanner p
  have hresolve : ∀ r, ((t.site projects).resolve p r).outcome.dependency? =
      ((t.site others).resolve p r).outcome.dependency? := by
    intro r
    simp only [Site.outcome_resolve, Target.site]
    exact (Atlas.outcome_perm perm nodup t.location p r.path r.file _).dependency
  rw [Site.dependenciesOf, Site.dependenciesOf, hreferences, Resolution.collapse,
    Resolution.collapse, Resolution.dependencies, Resolution.dependencies, List.filterMap_map,
    List.filterMap_map]
  simp only [Function.comp_def, hresolve]

/-- The same projects are visited. -/
theorem visited_perm (perm : projects.Perm others) (changed : Option (List String)) :
    (visited projects changed).Perm (visited others changed) := by
  cases changed with
  | none => exact perm.map Prod.snd
  | some names => exact (perm.filter _).map Prod.snd

/-- Two searches that find the same for every project, whatever the order of the projects. -/
structure FindsAs (found other : List Dependency) : Prop where
  perm : found.Perm other
  of_source : ∀ name, (found.filter fun d => d.source == name) = other.filter fun d => d.source == name

/-- What is found for projects of different names, one after the other, does not hang on their
    order. -/
theorem findsAs_flatMap {ps qs : List Project} (perm : ps.Perm qs)
    (nodup : (ps.map Project.name).Nodup) {f : Project → List Dependency}
    (own : ∀ p, ∀ d ∈ f p, d.source = p.name) : FindsAs (ps.flatMap f) (qs.flatMap f) where
  perm := perm.flatMap_right f
  of_source name := by
    rw [← flatMap_filter_source (fun p _ => own p) (· == name),
      ← flatMap_filter_source (fun p _ => own p) (· == name), filter_key_eq_of_perm perm nodup]

/-- Let projects be entered under their names, in one order or in another. Whoever mentions a path,
    and wherever: it is resolved alike. And searches over the projects, all of them or those of some
    names, fail alike or find the same for every project, in the same order and with the same
    evidence, so that all they find are the same dependencies. -/
theorem dependencies_of_any_order (t : Target) (settings : Settings) (keyed : KeyedByName projects)
    (perm : projects.Perm others) :
    (∀ source candidate evidence line,
      Resolution.SaysAs ((t.site projects).atlas.resolve source candidate evidence line)
        ((t.site others).atlas.resolve source candidate evidence line)) ∧
    ∀ changed,
      (∃ e, t.dependencies settings projects changed = .error e ∧
        t.dependencies settings others changed = .error e) ∨
      ∃ found warnings found' warnings',
        t.dependencies settings projects changed = .ok (found, warnings) ∧
          t.dependencies settings others changed = .ok (found', warnings') ∧
          FindsAs found found' := by
  have hothers : KeyedByName others :=
    ⟨(perm.map Prod.fst).nodup_iff.1 keyed.nodup,
      fun entry hentry => keyed.name_eq entry (perm.symm.subset hentry)⟩
  constructor
  · intro source candidate evidence line
    have houtcome :=
      Atlas.outcome_perm perm keyed.nodup t.location source candidate evidence line
    simp only [Target.site, Atlas.resolve]
    exact .of_outcome houtcome source.name candidate
  · intro changed
    obtain ⟨warnings, hfound⟩ := t.dependencies_eq_blocks settings keyed changed
    obtain ⟨warnings', hfound'⟩ := t.dependencies_eq_blocks settings hothers changed
    rw [hfound, hfound']
    cases t.toolchain.check settings.mode with
    | error e => exact Or.inl ⟨_, rfl, rfl⟩
    | ok compiler =>
      refine Or.inr ⟨_, _, _, _, rfl, rfl, ?_⟩
      have hsame : (t.site projects).dependenciesOf settings.chosenScanner =
          (t.site others).dependenciesOf settings.chosenScanner :=
        funext fun p => dependenciesOf_perm perm keyed.nodup t settings.chosenScanner p
      rw [← hsame]
      exact findsAs_flatMap (visited_perm perm changed) (nodup_names_visited keyed changed)
        fun _ _ hd => Site.source_of_mem_dependenciesOf hd

/-- A program, a library, and two projects that share a folder, at roots of one length. -/
def crowdedProjects : Table Project :=
  [("app", ⟨"app", "app"⟩), ("lib", ⟨"lib", "lib"⟩), ("one", ⟨"one", "gen"⟩),
    ("two", ⟨"two", "gen"⟩)]

/-- Entered in reverse, these projects share their folder as before, and the search for dependencies
    comes to the same end. -/
theorem dependencies_of_any_order_crowded :
    KeyedByName crowdedProjects ∧ crowdedProjects.Perm crowdedProjects.reverse ∧
      Resolution.SaysAs
        ((sampleTarget.site crowdedProjects).atlas.resolve ⟨"app", "app"⟩ "../gen/x.h" "app/main.c"
          (some 1))
        ((sampleTarget.site crowdedProjects.reverse).atlas.resolve ⟨"app", "app"⟩ "../gen/x.h"
          "app/main.c" (some 1)) ∧
      ∃ found warnings found' warnings',
        sampleTarget.dependencies { mode := .manual } crowdedProjects none = .ok (found, warnings) ∧
          sampleTarget.dependencies { mode := .manual } crowdedProjects.reverse none =
            .ok (found', warnings') ∧
          FindsAs found found' := by
  have hkeyed : KeyedByName crowdedProjects := by decide
  have hperm : crowdedProjects.Perm crowdedProjects.reverse := (List.reverse_perm _).symm
  obtain ⟨hresolve, hsearch⟩ :=
    dependencies_of_any_order sampleTarget { mode := .manual } hkeyed hperm
  refine ⟨hkeyed, hperm, hresolve ⟨"app", "app"⟩ "../gen/x.h" "app/main.c" (some 1), ?_⟩
  rcases hsearch none with ⟨e, herror, -⟩ | hfound
  · -- no compiler is asked for, so the search goes through
    obtain ⟨warnings, hblocks⟩ :=
      sampleTarget.dependencies_eq_blocks { mode := .manual } hkeyed none
    rw [hblocks] at herror
    cases herror
  · exact hfound

end Inference

end MakeAtlas
