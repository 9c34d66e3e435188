import MakeAtlas.Proofs.Graph.Rebuild
import MakeAtlas.Proofs.Inference.Incremental
import MakeAtlas.Proofs.Workspace.ProjectFolder

/-!
# What a project's dependencies hang on

Where no compiler is asked, the dependencies that start at a project are decided by the files of the
project: what is in its folder, apart from what is inside of subfolders that are passed over.
Nothing else on the disk has a say in them. So whatever happens to the files of other projects, a
project keeps its dependencies, and it is enough to look again at the projects whose files were
edited.

## Key results

- `filter_found_eq`: the dependencies that start at a name, from the references of its projects
- `sameOwnFiles_of_edits`: edits of other projects leave a project's own files
- `own_files_decide`: two states of a workspace
-/

namespace MakeAtlas.Inference.Target

/-! ## Projects and their files -/

/-- The absolute path of a project's folder. -/
def folderOf (t : Target) (p : Project) : String :=
  Path.resolve t.location p.root

/-- The names that lead to a project's folder. -/
def placeOf (t : Target) (p : Project) : List String :=
  Disk.placeOf (t.folderOf p)

/-- The entries of a project's folder. -/
def childrenOf (t : Target) (p : Project) : List (String × Entry) :=
  t.disk.childrenAt (t.folderOf p)

/-- Two states of a workspace have the same files of a project: the same files and folders below
    the project's folder, apart from what is inside of subfolders with an excluded name, or with
    Makefiles of their own, in both. -/
def SameOwnFiles (settings : Settings) (t₁ t₂ : Target) (p : Project) : Prop :=
  Workspace.SameFiles settings.excludeDirs (.folder (t₁.childrenOf p)) (.folder (t₂.childrenOf p))

/-- A project's folder holds a Makefile in both states. -/
def HasMakefile (t₁ t₂ : Target) (p : Project) : Prop :=
  Workspace.holdsMakefile (t₁.childrenOf p) = true ∧
    Workspace.holdsMakefile (t₂.childrenOf p) = true

/-- The dependencies that a search finds; a search that fails finds none. -/
def found (t : Target) (settings : Settings) (projects : Table Project)
    (changed : Option (List String)) : List Dependency :=
  match t.dependencies settings projects changed with
  | .ok (found, _) => found
  | .error _ => []

/-! ## Dependencies by their sources -/

section Manual

variable {t : Target} {settings : Settings} (manual : settings.mode = .manual)
  (projects : Table Project) (changed : Option (List String))

include manual

/-- Where no compiler is asked, a search never fails, and finds what becomes of the references of
    the visited projects. -/
theorem dependencies_eq_collapse : ∃ warnings, t.dependencies settings projects changed =
    .ok (Resolution.collapse ((visited projects changed).flatMap fun p =>
      ((t.site projects).references (.lexical settings.scope) p).map
        ((t.site projects).resolve p)), warnings) := by
  have hscanner : settings.chosenScanner = .lexical settings.scope := by
    rw [Settings.chosenScanner, manual]
  have hevidence : settings.evidence .standard t.toolchain =
      .ok [.includes (.lexical settings.scope), .makefile] := by
    rw [Settings.evidence_standard, manual, hscanner]
    rfl
  unfold dependencies
  rw [hevidence]
  exact t.dependenciesBy_eq_collapse projects _ changed

theorem exists_dependencies_eq_found : ∃ warnings, t.dependencies settings projects changed =
    .ok (t.found settings projects changed, warnings) := by
  obtain ⟨warnings, h⟩ := dependencies_eq_collapse (t := t) manual projects changed
  rw [found, h]
  exact ⟨warnings, rfl⟩

/-- The dependencies that start at a name come from the references of the visited projects of that
    name. -/
theorem filter_found_eq (name : String) :
    (t.found settings projects changed).filter (fun d => d.source == name) =
      distinctBy Dependency.ends
        (((visited projects changed).filter fun p => p.name == name).flatMap fun p =>
          Resolution.dependencies (((t.site projects).references (.lexical settings.scope) p).map
            ((t.site projects).resolve p))) := by
  obtain ⟨warnings, h⟩ := dependencies_eq_collapse (t := t) manual projects changed
  rw [flatMap_filter_source (fun _ _ _ hd => Site.source_of_mem_dependencies hd) (· == name),
    ← Resolution.dependencies_flatMap, found, h]
  show (Resolution.collapse _).filter _ = _
  rw [Resolution.collapse]
  have hchosen : ∀ ds : List Dependency,
      (distinctBy Dependency.ends ds).filter (fun d => d.ends.1 == name) =
        distinctBy Dependency.ends (ds.filter fun d => d.ends.1 == name) :=
    filter_distinctBy fun ends : String × String => ends.1 == name
  exact hchosen _

end Manual

/-! ## Two states of a workspace -/

section States

variable {t₁ t₂ : Target} {settings : Settings}

/-- Two states of a workspace find the same dependencies that start at a name, if they have the same
    files of every project of that name. -/
theorem filter_found_eq_of_sameOwnFiles (manual : settings.mode = .manual)
    (location : t₁.location = t₂.location)
    (hfirst : (Entry.folder t₁.disk.root).wellNamed = true)
    (hsecond : (Entry.folder t₂.disk.root).wellNamed = true) (projects : Table Project)
    (changed : Option (List String)) {name : String}
    (same : ∀ p ∈ projects.values, p.name = name → SameOwnFiles settings t₁ t₂ p) :
    (t₁.found settings projects changed).filter (fun d => d.source == name) =
      (t₂.found settings projects changed).filter (fun d => d.source == name) := by
  have hatlas : (t₁.site projects).atlas = (t₂.site projects).atlas := by
    rw [site, site, location]
  have hfolder : ∀ p, (t₁.site projects).folderOf p = (t₂.site projects).folderOf p := by
    intro p
    rw [Site.folderOf, Site.folderOf, hatlas]
  have hresolve : ∀ p, (t₁.site projects).resolve p = (t₂.site projects).resolve p := by
    intro p
    funext r
    rw [Site.resolve, Site.resolve, hatlas]
  have hvisited : ∀ p ∈ visited projects changed, p ∈ projects.values := by
    intro p hp
    cases changed with
    | none => exact hp
    | some names => exact (List.filter_sublist.map Prod.snd).subset hp
  rw [filter_found_eq manual, filter_found_eq manual]
  refine congrArg (distinctBy Dependency.ends) (List.flatMap_congr fun p hp => ?_)
  rw [List.mem_filter, beq_iff_eq] at hp
  have hreferences : (t₁.site projects).references (.lexical settings.scope) p =
      (t₂.site projects).references (.lexical settings.scope) p :=
    Site.lexical_references_eq (hfolder p) (same p (hvisited p hp.1) hp.2) hfirst hsecond
  rw [hreferences, hresolve]

/-- Edits of the own files of other projects leave a project's own files as they are. -/
theorem sameOwnFiles_of_edits (location : t₁.location = t₂.location)
    (absolute : Path.isAnchored t₁.location.toList = true) {edited : List Project}
    (edits : Workspace.DifferOnlyAt settings.excludeDirs (.folder t₁.disk.root)
      (.folder t₂.disk.root) (edited.map t₁.placeOf))
    (hedited : ∀ q ∈ edited, HasMakefile t₁ t₂ q) {p : Project} (hp : HasMakefile t₁ t₂ p)
    (other : t₁.placeOf p ∉ edited.map t₁.placeOf) : SameOwnFiles settings t₁ t₂ p := by
  have hplace : ∀ q, t₂.placeOf q = t₁.placeOf q := by
    intro q
    rw [placeOf, placeOf, folderOf, folderOf, location]
  have hdown : ∀ q, ".." ∉ t₁.placeOf q := fun q => Disk.up_not_mem_placeOf absolute q.root
  have hat₁ : ∀ q, HasMakefile t₁ t₂ q → (Entry.folder t₁.disk.root).at? (t₁.placeOf q) =
      some (.folder (t₁.childrenOf q)) :=
    fun q hq => Disk.at?_of_holdsMakefile (hdown q) hq.1
  have hat₂ : ∀ q, HasMakefile t₁ t₂ q → (Entry.folder t₂.disk.root).at? (t₁.placeOf q) =
      some (.folder (t₂.childrenOf q)) := by
    intro q hq
    rw [← hplace]
    have hdown₂ : ".." ∉ t₂.placeOf q := by
      rw [hplace]
      exact hdown q
    exact Disk.at?_of_holdsMakefile hdown₂ hq.2
  have hown : ∀ q, HasMakefile t₁ t₂ q →
      (Entry.folder t₁.disk.root).holdsMakefileAt (t₁.placeOf q) = true ∧
        (Entry.folder t₂.disk.root).holdsMakefileAt (t₁.placeOf q) = true := by
    intro q hq
    rw [Entry.holdsMakefileAt, Entry.holdsMakefileAt, hat₁ q hq, hat₂ q hq, Option.any_some,
      Option.any_some, Entry.children, Entry.children]
    exact hq
  refine Workspace.sameFiles_of_differOnlyAt edits other ?_ (hat₁ p hp) (hat₂ p hp)
  rw [List.forall_mem_cons, List.forall_mem_map]
  exact ⟨hown p hp, fun q hq => hown q (hedited q hq)⟩

/-- In a search over projects of different names, what is found is what starts at one project after
    the other. -/
theorem found_eq_flatMap_filter {t : Target} (manual : settings.mode = .manual)
    {projects : Table Project} (keyed : KeyedByName projects) :
    t.found settings projects none =
      projects.values.flatMap fun p =>
        (t.found settings projects none).filter fun d => d.source == p.name := by
  obtain ⟨_, h⟩ := t.dependencies_eq_blocks settings keyed none
  have hnodup := nodup_names_visited keyed none
  rw [manual] at h
  have hfound : t.found settings projects none =
      projects.values.flatMap ((t.site projects).dependenciesOf settings.chosenScanner) := by
    rw [found, h]
    rfl
  rw [hfound]
  have hgrouped := Graph.flatMap_edges_from
    (f := (t.site projects).dependenciesOf settings.chosenScanner) hnodup
    (fun p _ d hd => Site.source_of_mem_dependenciesOf hd) (List.Sublist.refl _)
  rw [List.flatMap_map] at hgrouped
  exact hgrouped.symm

/-- What two states of a workspace have in common, by the files of its projects. -/
structure OwnFilesDecide (settings : Settings) (projects : Table Project) (t₁ t₂ : Target) :
    Prop where
  /-- Whichever projects are visited, both searches succeed. -/
  succeeds : ∀ changed,
    (∃ warnings, t₁.dependencies settings projects changed =
      .ok (t₁.found settings projects changed, warnings)) ∧
    ∃ warnings, t₂.dependencies settings projects changed =
      .ok (t₂.found settings projects changed, warnings)
  /-- Where both states have the same files of a project, they show the same dependencies that
      start at it, in the same order and with the same evidence. Projects that share a name are not
      told apart in dependencies, so both states must have the same files of each of them. -/
  same_edges : ∀ changed name,
    (∀ p ∈ projects.values, p.name = name → SameOwnFiles settings t₁ t₂ p) →
      (t₁.found settings projects changed).filter (fun d => d.source == name) =
        (t₂.found settings projects changed).filter (fun d => d.source == name)
  /-- Where only the own files of some projects were edited, projects in other folders keep the
      dependencies that start at them. -/
  edits_elsewhere : Path.isAnchored t₁.location.toList = true → ∀ edited : List Project,
    (∀ q ∈ edited, HasMakefile t₁ t₂ q) →
    Workspace.DifferOnlyAt settings.excludeDirs (.folder t₁.disk.root) (.folder t₂.disk.root)
      (edited.map t₁.placeOf) →
    ∀ changed name,
      (∀ p ∈ projects.values, p.name = name →
        HasMakefile t₁ t₂ p ∧ t₁.placeOf p ∉ edited.map t₁.placeOf) →
        (t₁.found settings projects changed).filter (fun d => d.source == name) =
          (t₂.found settings projects changed).filter (fun d => d.source == name)
  /-- Where the projects of some names are the only ones with edited files, a search over these
      names, with what was found before for all other projects, is the search over all. -/
  rerun_enough : KeyedByName projects → ∀ names : List String,
    (∀ p ∈ projects.values, p.name ∉ names → SameOwnFiles settings t₁ t₂ p) →
      t₂.found settings projects none =
        projects.values.flatMap fun p =>
          (if p.name ∈ names then t₂.found settings projects (some names)
            else t₁.found settings projects none).filter fun d => d.source == p.name

/-- A search over some names finds for each of them what the search over all projects does. -/
theorem filter_found_some_eq {t : Target} (manual : settings.mode = .manual)
    {projects : Table Project} (keyed : KeyedByName projects) {names : List String} {name : String}
    (hname : name ∈ names) :
    (t.found settings projects (some names)).filter (fun d => d.source == name) =
      (t.found settings projects none).filter (fun d => d.source == name) := by
  rw [filter_found_eq manual, filter_found_eq manual, visited_some_eq_filter keyed,
    List.filter_filter]
  congr 2
  refine List.filter_congr fun p _ => ?_
  by_cases hp : p.name = name <;> simp [hp, hname]

/-- Where no compiler is asked, whatever the settings and the projects are: two states of a
    workspace show the same dependencies that start at a project, unless they differ in the files of
    that project. -/
theorem own_files_decide (manual : settings.mode = .manual) (location : t₁.location = t₂.location)
    (hfirst : (Entry.folder t₁.disk.root).wellNamed = true)
    (hsecond : (Entry.folder t₂.disk.root).wellNamed = true) (projects : Table Project) :
    OwnFilesDecide settings projects t₁ t₂ where
  succeeds changed := ⟨exists_dependencies_eq_found manual projects changed,
    exists_dependencies_eq_found manual projects changed⟩
  same_edges changed _ same :=
    filter_found_eq_of_sameOwnFiles manual location hfirst hsecond projects changed same
  edits_elsewhere absolute edited hedited edits changed _ hname := by
    refine filter_found_eq_of_sameOwnFiles manual location hfirst hsecond projects changed ?_
    intro p hp hpname
    obtain ⟨hmakefile, other⟩ := hname p hp hpname
    exact sameOwnFiles_of_edits location absolute edits hedited hmakefile other
  rerun_enough keyed names same := by
    rw [found_eq_flatMap_filter manual keyed]
    refine List.flatMap_congr fun p hp => ?_
    split
    · next hrerun => exact (filter_found_some_eq manual keyed hrerun).symm
    · next hkept =>
      refine (filter_found_eq_of_sameOwnFiles manual location hfirst hsecond projects none ?_).symm
      intro q hq hqname
      exact same q hq (hqname ▸ hkept)

end States

/-! ## A workspace with edits -/

/-- The files of a program, with a text in a foreign source, in a build product, and in the Makefile
    of a library. -/
def programFiles (text : String) : List (String × Entry) :=
  [("Makefile", .file (Text.Utf8.encode "build: ../lib/lib.h\n")),
    ("build", .folder [("out.c", .file (Text.Utf8.encode text))]),
    ("main.c", .file (Text.Utf8.encode "#include \"../lib/lib.h\"\n")),
    ("vendor", .folder [
      ("Makefile", .file (Text.Utf8.encode text)),
      ("vendor.c", .file (Text.Utf8.encode text))])]

/-- The workspace of the program and the library. -/
def workshop (text : String) : Target where
  disk := ⟨[("w", .folder [
    ("app", .folder (programFiles text)),
    ("lib", .folder [("Makefile", .file (Text.Utf8.encode text))])])]⟩
  toolchain := ⟨fun _ => false, fun _ => .missing, fun _ _ => .missing⟩
  location := "/w"

private theorem wellNamed_workshop (text : String) :
    (Entry.folder (workshop text).disk.root).wellNamed = true := rfl

private theorem childrenOf_workshop (text : String) :
    (workshop text).childrenOf ⟨"app", "app"⟩ = programFiles text := by
  have hplace : Disk.placeOf ((workshop text).folderOf ⟨"app", "app"⟩) = ["w", "app"] := by
    show Disk.placeOf (Path.resolve "/w" "app") = ["w", "app"]
    decide +kernel
  rw [childrenOf, Disk.childrenAt, hplace]
  rfl

/-- However the other text changes, the program's own files stay the same. -/
private theorem sameOwnFiles_workshop (text other : String) :
    SameOwnFiles { mode := .manual } (workshop text) (workshop other) ⟨"app", "app"⟩ := by
  rw [SameOwnFiles, childrenOf_workshop, childrenOf_workshop, Workspace.sameFiles_iff_children]
  intro name
  unfold programFiles
  simp only [Table.get?]
  split
  · exact .file _
  · split
    · next hname => exact .passedOver _ _ (Or.inl (by rw [← hname]; decide))
    · split
      · exact .file _
      · split
        · exact .passedOver _ _ (Or.inr ⟨rfl, rfl⟩)
        · exact .missing

/-- Whatever is written into the foreign source, the build product and the library's Makefile, the
    program's dependencies stay. -/
theorem own_files_decide_workshop :
    OwnFilesDecide { mode := .manual } sampleProjects (workshop "all:\n")
        (workshop "all: ../app/main.c\n") ∧
      SameOwnFiles { mode := .manual } (workshop "all:\n") (workshop "all: ../app/main.c\n")
        ⟨"app", "app"⟩ ∧
      ((workshop "all:\n").found { mode := .manual } sampleProjects none).filter
          (fun d => d.source == "app") =
        ((workshop "all: ../app/main.c\n").found { mode := .manual } sampleProjects none).filter
          (fun d => d.source == "app") := by
  have location : (workshop "all:\n").location = (workshop "all: ../app/main.c\n").location := rfl
  have decided : OwnFilesDecide { mode := .manual } sampleProjects (workshop "all:\n")
      (workshop "all: ../app/main.c\n") :=
    own_files_decide rfl location (wellNamed_workshop _) (wellNamed_workshop _) sampleProjects
  have only : ∀ p ∈ sampleProjects.values, p.name = "app" → p = ⟨"app", "app"⟩ := by decide
  refine ⟨decided, sameOwnFiles_workshop _ _, decided.same_edges none "app" ?_⟩
  intro p hp hname
  rw [only p hp hname]
  exact sameOwnFiles_workshop _ _

end MakeAtlas.Inference.Target
