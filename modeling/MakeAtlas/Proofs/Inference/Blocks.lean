import MakeAtlas.Inference.Scan
import MakeAtlas.Proofs.DistinctBlocks
import MakeAtlas.Proofs.Evidence.References
import MakeAtlas.Proofs.Resolution.Resolved
import MakeAtlas.Proofs.TableKeys

/-!
# Dependencies, project by project

The dependencies of a workspace are those of its visited projects, one project after the other: no
project has a say in what is found for another. This needs that no two projects share a name, since
one dependency is kept for each pair of names.

## Key results

- `collect_eq_ok`: looking at a list succeeds if looking at each member does
- `collapse_flatMap`: one dependency is kept for each pair, project by project
- `flatMap_filter_source`: the dependencies of chosen projects are those that start at them
- `evidence_standard`: what settings ask for, or why it cannot be looked for
- `dependencies_eq_blocks`: the dependencies of a workspace, or why there are none
-/

namespace MakeAtlas

/-- A set of projects that are entered under their own names, each name once. -/
structure KeyedByName (projects : Table Project) : Prop where
  nodup : projects.keys.Nodup
  name_eq : ∀ entry ∈ projects, entry.2.name = entry.1

instance (projects : Table Project) : Decidable (KeyedByName projects) :=
  decidable_of_iff (projects.keys.Nodup ∧ ∀ entry ∈ projects, entry.2.name = entry.1)
    ⟨fun h => ⟨h.1, h.2⟩, fun h => ⟨h.1, h.2⟩⟩

/-- A project is found under its name. -/
theorem KeyedByName.get?_name {projects : Table Project} (keyed : KeyedByName projects)
    {p : Project} (hp : p ∈ projects.values) : projects.get? p.name = some p := by
  obtain ⟨⟨key, _⟩, hentry, rfl⟩ := List.mem_map.1 hp
  rw [keyed.name_eq _ hentry]
  exact (Table.get?_eq_some_iff_mem keyed.nodup).2 hentry

namespace Inference

/-- A program and a library. -/
def sampleProjects : Table Project :=
  [("app", ⟨"app", "app"⟩), ("lib", ⟨"lib", "lib"⟩)]

/-- A workspace in which the program's source and Makefile both lead to the library, on a machine
    without compilers. -/
def sampleTarget : Target where
  disk := ⟨[("w", .folder [
    ("app", .folder [
      ("Makefile", .file (Text.Utf8.encode "build: ../lib/lib.h\n")),
      ("main.c", .file (Text.Utf8.encode "#include \"../lib/lib.h\"\n"))]),
    ("lib", .folder [("Makefile", .file (Text.Utf8.encode "build:\n"))])])]⟩
  toolchain := ⟨fun _ => false, fun _ => .missing, fun _ _ => .missing⟩
  location := "/w"

/-! ## Visited projects -/

theorem mem_values_of_mem_visited {projects : Table Project} {changed : Option (List String)}
    {p : Project} (hp : p ∈ visited projects changed) : p ∈ projects.values := by
  cases changed with
  | none => exact hp
  | some names => exact (List.filter_sublist.map Prod.snd).subset hp

/-- The names of the visited projects are keys of the set of projects, in its order. -/
theorem names_visited_sublist {projects : Table Project} (keyed : KeyedByName projects)
    (changed : Option (List String)) :
    ((visited projects changed).map Project.name).Sublist projects.keys := by
  have names_values : ∀ entries : Table Project, entries.Sublist projects →
      (Table.values entries).map Project.name = Table.keys entries := by
    intro entries hsub
    rw [Table.values, Table.keys, List.map_map]
    exact List.map_congr_left fun entry hentry => keyed.name_eq entry (hsub.subset hentry)
  cases changed with
  | none => simp only [visited, names_values projects (List.Sublist.refl _), List.Sublist.refl]
  | some names =>
    rw [visited, names_values _ List.filter_sublist]
    exact List.filter_sublist.map _

/-- No two visited projects share a name. -/
theorem nodup_names_visited {projects : Table Project} (keyed : KeyedByName projects)
    (changed : Option (List String)) : ((visited projects changed).map Project.name).Nodup :=
  keyed.nodup.sublist (names_visited_sublist keyed changed)

/-! ## What is found for a list of projects -/

/-- Looking at the members of a list finds what each of them yields, if none of them ends the
    search. -/
theorem collect_eq_ok {α : Type} {find : α → Except String Findings} {findings : α → Findings}
    {xs : List α} (h : ∀ x ∈ xs, find x = .ok (findings x)) :
    collect find xs =
      .ok ⟨xs.flatMap fun x => (findings x).resolutions,
        xs.flatMap fun x => (findings x).warnings⟩ := by
  induction xs with
  | nil => rfl
  | cons x xs ih =>
    rw [collect, h x List.mem_cons_self, ih fun y hy => h y (List.mem_cons_of_mem _ hy)]
    rfl

end Inference

/-- What is said of a kind of evidence that cannot be looked at for a project. -/
def EvidenceKind.complaints (kind : EvidenceKind) (site : Site) (p : Project) : List String :=
  match kind.resolutions site p with
  | .ok _ => []
  | .error e =>
    ["Strategy " ++ kind.name ++ " failed for " ++ p.name ++ ": " ++ e.message]

namespace Inference

/-- A kind of evidence never ends the search: if it fails for a project, that is said, and nothing
    is found there. -/
theorem attempt_strategy (kind : EvidenceKind) (site : Site) (p : Project) :
    attempt p (kind.strategy site) = .ok ⟨kind.found site p, kind.complaints site p⟩ := by
  unfold attempt EvidenceKind.strategy EvidenceKind.found EvidenceKind.complaints
  simp only
  cases kind.resolutions site p <;> rfl

/-- What kinds of evidence show about projects is put together project by project, and then kind by
    kind. -/
theorem gather_strategies (kinds : List EvidenceKind) (site : Site) (ps : List Project) :
    gather (kinds.map fun kind => kind.strategy site) ps =
      .ok ⟨ps.flatMap fun p => kinds.flatMap fun kind => kind.found site p,
        ps.flatMap fun p => kinds.flatMap fun kind => kind.complaints site p⟩ := by
  let findings (p : Project) : Findings :=
    ⟨kinds.flatMap fun kind => kind.found site p,
      kinds.flatMap fun kind => kind.complaints site p⟩
  -- no attempt ends the search, so it is enough to look at one project
  suffices h : ∀ p ∈ ps, collect (attempt p) (kinds.map fun kind => kind.strategy site) =
      .ok (findings p) from collect_eq_ok h
  intro p _
  have hcollect : collect (attempt p) (kinds.map fun kind => kind.strategy site) =
      collect (fun kind : EvidenceKind => attempt p (kind.strategy site)) kinds := by
    induction kinds with
    | nil => rfl
    | cons kind kinds ih => rw [List.map_cons, collect, collect, ih]
  rw [hcollect]
  exact collect_eq_ok fun kind _ => attempt_strategy kind site p

end Inference

/-! ## One dependency for each pair -/

/-- Where every project's dependencies start at the project itself and no two projects share a name,
    one dependency for each pair of projects is kept project by project. -/
theorem Resolution.collapse_flatMap {ps : List Project} {f : Project → List Resolution}
    (nodup : (ps.map Project.name).Nodup)
    (own : ∀ p ∈ ps, ∀ d ∈ Resolution.dependencies (f p), d.source = p.name) :
    collapse (ps.flatMap f) = ps.flatMap fun p => collapse (f p) := by
  rw [collapse, dependencies_flatMap, distinctBy_flatMap]
  · rfl
  · rw [List.nodup_iff_pairwise_ne, List.pairwise_map] at nodup
    refine nodup.imp_of_mem fun {p q} hp hq hne d hd e he hends => hne ?_
    rw [← own p hp d hd, ← own q hq e he]
    exact congrArg Prod.fst hends

/-- Where the dependencies of every project start at the project, those of chosen projects are the
    ones that start at a chosen name. -/
theorem flatMap_filter_source {ps : List Project} {f : Project → List Dependency}
    (own : ∀ p ∈ ps, ∀ d ∈ f p, d.source = p.name) (chosen : String → Bool) :
    (ps.filter fun p => chosen p.name).flatMap f =
      (ps.flatMap f).filter fun d => chosen d.source := by
  induction ps with
  | nil => rfl
  | cons p ps ih =>
    have hrest := ih fun q hq => own q (List.mem_cons_of_mem _ hq)
    have hp : ∀ d ∈ f p, chosen d.source = chosen p.name := fun d hd =>
      congrArg chosen (own p List.mem_cons_self d hd)
    rw [List.flatMap_cons, List.filter_append, ← hrest]
    cases hchosen : chosen p.name with
    | true =>
      rw [List.filter_cons_of_pos (by simpa using hchosen), List.flatMap_cons]
      congr 1
      exact (List.filter_eq_self.2 fun d hd => (hp d hd).trans hchosen).symm
    | false =>
      have hnone : (f p).filter (fun d => chosen d.source) = [] :=
        List.filter_eq_nil_iff.2 fun d hd => by rw [hp d hd, hchosen]; decide
      rw [List.filter_cons_of_neg (by simp [hchosen]), hnone, List.nil_append]

namespace Site

theorem outcome_resolve (site : Site) (p : Project) (r : Reference) :
    (site.resolve p r).outcome =
      site.atlas.outcome p r.path r.file (r.line.map Int.ofNat) := by
  rw [resolve, Atlas.resolve]

/-- What becomes of a reference of a project: a resolved one is a dependency of that project, shown
    by the reference. -/
theorem resolve_eq_resolved {site : Site} {p : Project} {r : Reference} {d : Dependency}
    (h : (site.resolve p r).outcome = .resolved d) :
    d.source = p.name ∧ d.evidence = r.file ∧ d.line = r.line ∧
      d.invalidity site.atlas.projects = none := by
  unfold resolve Atlas.resolve at h
  simp only [Atlas.outcome_eq_resolved_iff] at h
  obtain ⟨-, -, ⟨hsource, hfile, hline⟩, hvalid⟩ := h
  refine ⟨hsource, hfile, ?_, hvalid⟩
  exact Option.map_injective (fun _ _ => Int.ofNat.inj) hline

/-- What is found through references of a project is what one of them is resolved to. -/
theorem exists_of_mem_dependencies {site : Site} {p : Project} {references : List Reference}
    {d : Dependency} (h : d ∈ Resolution.dependencies (references.map (site.resolve p))) :
    ∃ r ∈ references, (site.resolve p r).outcome = .resolved d := by
  obtain ⟨resolution, hmem, hd⟩ := Resolution.mem_dependencies.1 h
  obtain ⟨r, hr, hresolve⟩ := List.mem_map.1 hmem
  rw [← hresolve] at hd
  exact ⟨r, hr, hd⟩

/-- What is found through references of a project starts at the project. -/
theorem source_of_mem_dependencies {site : Site} {p : Project} {references : List Reference}
    {d : Dependency} (h : d ∈ Resolution.dependencies (references.map (site.resolve p))) :
    d.source = p.name := by
  obtain ⟨r, -, hd⟩ := exists_of_mem_dependencies h
  exact (resolve_eq_resolved hd).1

/-- The dependencies of one project: the first one on each other project. -/
def dependenciesOf (site : Site) (scanner : IncludeScanner) (p : Project) : List Dependency :=
  Resolution.collapse ((site.references scanner p).map (site.resolve p))

/-- Dependencies of a project start at the project. -/
theorem source_of_mem_dependenciesOf {site : Site} {scanner : IncludeScanner} {p : Project}
    {d : Dependency} (h : d ∈ site.dependenciesOf scanner p) : d.source = p.name :=
  source_of_mem_dependencies (mem_of_mem_distinctBy h)

/-- Dependencies of a project hold among the projects. -/
theorem valid_of_mem_dependenciesOf {site : Site} {scanner : IncludeScanner} {p : Project}
    {d : Dependency} (h : d ∈ site.dependenciesOf scanner p) :
    d.invalidity site.atlas.projects = none := by
  obtain ⟨r, -, hd⟩ := exists_of_mem_dependencies (mem_of_mem_distinctBy h)
  exact (resolve_eq_resolved hd).2.2.2

/-- All references of projects of different names, collapsed together, give the dependencies of one
    project after the other. -/
theorem collapse_references_eq {site : Site} {scanner : IncludeScanner} {ps : List Project}
    (nodup : (ps.map Project.name).Nodup) :
    Resolution.collapse (ps.flatMap fun p => (site.references scanner p).map (site.resolve p)) =
      ps.flatMap (site.dependenciesOf scanner) :=
  Resolution.collapse_flatMap nodup fun _ _ _ hd => source_of_mem_dependencies hd

/-- Projects of different names have one dependency for each pair of names. -/
theorem nodup_ends_dependenciesOf (site : Site) (scanner : IncludeScanner) {ps : List Project}
    (nodup : (ps.map Project.name).Nodup) :
    ((ps.flatMap (site.dependenciesOf scanner)).map Dependency.ends).Nodup := by
  rw [← collapse_references_eq nodup]
  exact nodup_map_distinctBy _ _

end Site

/-! ## The whole search -/

/-- A mode is refused exactly if it asks for a compiler that cannot be used. -/
theorem Toolchain.check_eq_error_iff {toolchain : Toolchain} {mode : ScanMode} {e : ChoiceError} :
    toolchain.check mode = .error e ↔
      ∃ c detail, mode = .compiler c ∧ toolchain.problem c = some detail ∧
        e = .unavailable c detail := by
  cases mode with
  | manual => simp [check]
  | compiler c =>
    simp only [check, ScanMode.compiler.injEq]
    cases hproblem : toolchain.problem c with
    | none =>
      simp only [reduceCtorEq, false_iff, not_exists, not_and]
      rintro _ detail rfl hdetail
      rw [hproblem] at hdetail
      cases hdetail
    | some detail =>
      rw [Except.error.injEq]
      constructor
      · rintro rfl
        exact ⟨c, detail, rfl, hproblem, rfl⟩
      · intro h
        obtain ⟨_, _, rfl, hdetail, rfl⟩ := h
        rw [hproblem, Option.some.injEq] at hdetail
        rw [hdetail]

namespace Settings

/-- The scanner that the settings' mode stands for. -/
def chosenScanner (s : Settings) : IncludeScanner :=
  match s.mode with
  | .manual => .lexical s.scope
  | .compiler c => .compiler s.scope c.command

/-- The kinds of evidence that settings ask for are what sources include, and then Makefiles. They
    can be looked for unless the compiler of the mode cannot be used. -/
theorem evidence_standard (s : Settings) (toolchain : Toolchain) :
    s.evidence .standard toolchain =
      match toolchain.check s.mode with
      | .error e => .error (.choice e)
      | .ok _ => .ok [.includes s.chosenScanner, .makefile] := by
  unfold evidence chosenScanner
  cases hmode : s.mode with
  | manual => rfl
  | compiler c =>
    simp only [Toolchain.check]
    cases toolchain.problem c with
    | some detail => rfl
    | none => cases c <;> rfl

end Settings

namespace Inference.Target

/-- The dependencies of a workspace are those that sources and Makefiles show, unless the compiler
    of the settings cannot be used. -/
theorem dependencies_eq_dependenciesBy (t : Target) (settings : Settings)
    (projects : Table Project) (changed : Option (List String)) :
    t.dependencies settings projects changed =
      match t.toolchain.check settings.mode with
      | .error e => .error (.evidence (.choice e))
      | .ok _ =>
        t.dependenciesBy [.includes settings.chosenScanner, .makefile] projects changed := by
  unfold dependencies
  rw [Settings.evidence_standard]
  cases t.toolchain.check settings.mode <;> rfl

/-- Once the kinds of evidence are known, the dependencies of a workspace are what becomes of the
    references of its visited projects, one for each pair of names. -/
theorem dependenciesBy_eq_collapse (t : Target) (projects : Table Project)
    (scanner : IncludeScanner) (changed : Option (List String)) :
    ∃ warnings, t.dependenciesBy [.includes scanner, .makefile] projects changed =
      .ok (Resolution.collapse ((visited projects changed).flatMap fun p =>
        ((t.site projects).references scanner p).map ((t.site projects).resolve p)), warnings) := by
  have hfound : ∀ p : Project,
      ([EvidenceKind.includes scanner, .makefile].flatMap fun kind =>
        kind.found (t.site projects) p) =
        ((t.site projects).references scanner p).map ((t.site projects).resolve p) := by
    intro p
    simp only [List.flatMap_cons, List.flatMap_nil, List.append_nil, EvidenceKind.found_includes,
      EvidenceKind.found_makefile, Site.references, List.map_append]
  unfold dependenciesBy Inference.dependencies
  rw [gather_strategies]
  simp only [hfound]
  exact ⟨_, rfl⟩

/-- Where no two projects share a name, these are the dependencies of one project after the
    other. -/
theorem dependenciesBy_eq_blocks {t : Target} {projects : Table Project}
    (keyed : KeyedByName projects) (scanner : IncludeScanner) (changed : Option (List String)) :
    ∃ warnings, t.dependenciesBy [.includes scanner, .makefile] projects changed =
      .ok ((visited projects changed).flatMap ((t.site projects).dependenciesOf scanner),
        warnings) := by
  rw [← Site.collapse_references_eq (nodup_names_visited keyed changed)]
  exact t.dependenciesBy_eq_collapse projects scanner changed

/-- The dependencies of a workspace: there are none if the compiler of the settings cannot be used,
    and otherwise they are those of the visited projects, one project after the other. -/
theorem dependencies_eq_blocks (t : Target) (settings : Settings) {projects : Table Project}
    (keyed : KeyedByName projects) (changed : Option (List String)) :
    ∃ warnings, t.dependencies settings projects changed =
      match t.toolchain.check settings.mode with
      | .error e => .error (.evidence (.choice e))
      | .ok _ => .ok ((visited projects changed).flatMap
          ((t.site projects).dependenciesOf settings.chosenScanner), warnings) := by
  rw [dependencies_eq_dependenciesBy]
  cases t.toolchain.check settings.mode with
  | error e => exact ⟨[], rfl⟩
  | ok compiler => exact dependenciesBy_eq_blocks (t := t) keyed settings.chosenScanner changed

end Inference.Target

end MakeAtlas
