import MakeAtlas.Proofs.Evidence.Exhaustive
import MakeAtlas.Proofs.Inference.OwnEvidence
import MakeAtlas.Proofs.Path.BelowRoots

/-!
# The search and the exhaustive search

A scan drops all but the first mention of a path, and all but the first flag, long before one
dependency is kept for each pair of projects. Nobody can tell: mentions of one path in a project
lead to the same pair, and either all of them give a dependency or none does, since whether a file
shows anything for a project hangs on the project's root alone.

## Key results

- `ends_resolve_congr`: references to one path lead to the same pair of projects
- `keepsSame_first`: later references to a path change nothing about what is kept
- `shows_walked_iff`: all files that are walked for a project show something, or none does
- `shows_mention_iff`: so do all mentions in its sources
- `dependencies_eq_exhaustive`: the search finds what the exhaustive search finds
-/

namespace MakeAtlas

/-! ## The pair that a reference leads to -/

namespace Atlas

/-- References with the same support lead to the same pair of projects, or to none. -/
theorem ends_found_congr {atlas : Atlas} {source target evidence evidence' : String}
    {line line' : Option Int} (h : IsSupported atlas.projects source target evidence line ↔
      IsSupported atlas.projects source target evidence' line') :
    (atlas.found source target evidence line).dependency?.map Dependency.ends =
      (atlas.found source target evidence' line').dependency?.map Dependency.ends := by
  by_cases hfound : ∃ d, atlas.found source target evidence line = .resolved d
  · have hfound' : ∃ d, atlas.found source target evidence' line' = .resolved d := by
      rw [exists_found_eq_resolved_iff] at hfound ⊢
      exact ⟨hfound.1, h.1 hfound.2⟩
    obtain ⟨d, hd⟩ := hfound
    obtain ⟨d', hd'⟩ := hfound'
    obtain ⟨⟨hsource, htarget, -⟩, -⟩ := found_eq_resolved_iff.1 hd
    obtain ⟨⟨hsource', htarget', -⟩, -⟩ := found_eq_resolved_iff.1 hd'
    simp [hd, hd', Outcome.dependency?, Dependency.ends, hsource, htarget, hsource', htarget']
  · have hfound' : ¬ ∃ d, atlas.found source target evidence' line' = .resolved d := by
      rw [exists_found_eq_resolved_iff] at hfound ⊢
      exact fun hother => hfound ⟨hother.1, h.2 hother.2⟩
    -- what is not found is rejected, one way or another
    obtain ⟨why, hwhy⟩ :=
      (found_eq_resolved_or_invalid atlas source target evidence line).resolve_left hfound
    obtain ⟨why', hwhy'⟩ :=
      (found_eq_resolved_or_invalid atlas source target evidence' line').resolve_left hfound'
    rw [hwhy, hwhy']
    rfl

/-- To which pair of projects a path leads does not hang on the file and line that mention it, as
    far as one supports what the other does. -/
theorem ends_outcome_congr {atlas : Atlas} {source : Project}
    {evidence evidence' : String} {line line' : Option Int}
    (h : ∀ target, IsSupported atlas.projects source.name target evidence line ↔
      IsSupported atlas.projects source.name target evidence' line') (candidate : String) :
    (atlas.outcome source candidate evidence line).dependency?.map Dependency.ends =
      (atlas.outcome source candidate evidence' line').dependency?.map Dependency.ends := by
  unfold outcome
  by_cases hclimbs : Path.climbs candidate = true
  · rw [if_pos hclimbs, if_pos hclimbs]
    split
    · rfl
    · next owner _ =>
      by_cases hself : owner = source.name
      · rw [if_pos hself, if_pos hself]
      · rw [if_neg hself, if_neg hself]
        exact ends_found_congr (h owner)
    · rfl
  · rw [if_neg hclimbs, if_neg hclimbs]

end Atlas

/-- References of a project to one path, in lines of files that both show something for the
    project's root or both do not, lead to the same pair of projects. -/
theorem Site.ends_resolve_congr {site : Site} {p : Project}
    (known : site.atlas.projects.get? p.name = some p) {r r' : Reference} (hpath : r.path = r'.path)
    (hline : ∀ n ∈ r.line, 0 < n) (hline' : ∀ n ∈ r'.line, 0 < n)
    (hshows : Dependency.Shows r.file p.root ↔ Dependency.Shows r'.file p.root) :
    (site.resolve p r).outcome.dependency?.map Dependency.ends =
      (site.resolve p r').outcome.dependency?.map Dependency.ends := by
  -- what supports a dependency of a known project, besides its ends
  have hsupported : ∀ r : Reference, (∀ n ∈ r.line, 0 < n) → ∀ target,
      Atlas.IsSupported site.atlas.projects p.name target r.file (r.line.map Int.ofNat) ↔
        p.name ∈ site.atlas.projects.keys ∧ target ∈ site.atlas.projects.keys ∧
          Dependency.Shows r.file p.root := by
    intro r hpos target
    constructor
    · intro h
      exact ⟨h.source_known, h.target_known, h.shown p known⟩
    · intro h
      refine ⟨h.1, h.2.1, Dependency.le_of_mem_map_ofNat hpos, fun q hq => ?_⟩
      rw [known, Option.some.injEq] at hq
      exact hq ▸ h.2.2
  rw [outcome_resolve, outcome_resolve, hpath]
  apply Atlas.ends_outcome_congr
  intro target
  rw [hsupported r hline, hsupported r' hline', hshows]

/-! ## What is kept -/

namespace Resolution

/-- Of two lists of resolutions the same is kept, whichever pairs of projects have been seen
    before. -/
def KeepsSame (as bs : List Resolution) : Prop :=
  ∀ seen, distinctFrom Dependency.ends seen (dependencies as) =
    distinctFrom Dependency.ends seen (dependencies bs)

theorem KeepsSame.refl (as : List Resolution) : KeepsSame as as :=
  fun _ => rfl

theorem isBlockwise_keepsSame : Inference.IsBlockwise KeepsSame where
  nil := KeepsSame.refl []
  append := by
    intro as bs cs ds hab hcd seen
    rw [dependencies_append, dependencies_append, distinctFrom_append, distinctFrom_append,
      hab seen, hcd]

/-- One dependency is left for each pair, so the same dependencies are left. -/
theorem KeepsSame.collapse_eq {as bs : List Resolution} (h : KeepsSame as bs) :
    collapse as = collapse bs :=
  h []

/-- Where references to one path lead to the same pair of projects, later ones change nothing about
    what is kept. -/
theorem keepsSame_first {resolve : Reference → Resolution} {references : List Reference}
    (alike : ∀ r ∈ references, ∀ r' ∈ references, r.path = r'.path →
      (resolve r).outcome.dependency?.map Dependency.ends =
        (resolve r').outcome.dependency?.map Dependency.ends) :
    KeepsSame ((Reference.first references).map resolve) (references.map resolve) := by
  have hfound : ∀ references : List Reference, dependencies (references.map resolve) =
      references.filterMap fun r => (resolve r).outcome.dependency? :=
    fun _ => List.filterMap_map
  intro seen
  rw [hfound, hfound]
  exact distinctFrom_filterMap_distinctBy alike seen

end Resolution

/-! ## Files that are walked -/

namespace Inference.Target

open MakeAtlas.Path (isName joined)

variable {t : Target} {projects : Table Project}

/-- Names in the folders of projects have no backslashes in them, and no name in the folder of the
    workspace begins with a blank. -/
structure IsPlainlyNamed (t : Target) (projects : Table Project) : Prop where
  folders : ∀ p ∈ projects.values, (Entry.folder (t.childrenOf p)).IsTree
  noBlank : ∀ name ∈ Table.keys t.tree.children, Text.beginsBlank name = false

/-- For the projects of a workspace, it is enough that names in the workspace are so. -/
theorem isPlainlyNamed_projectsOf {settings : Settings} {nodes : Table Node}
    (built : t.nodes settings = .ok nodes) (tree : t.tree.IsTree)
    (absolute : Path.isAnchored t.location.toList = true)
    (noBlank : ∀ name ∈ Table.keys t.tree.children, Text.beginsBlank name = false) :
    t.IsPlainlyNamed (projectsOf nodes) := by
  refine ⟨fun p hp => ?_, noBlank⟩
  obtain ⟨node, hnode, rfl⟩ := exists_node_of_mem_projects hp
  exact isTree_childrenOf built tree absolute hnode

variable (absolute : Path.isAnchored t.location.toList = true)

include absolute

/-- A relative root that does not climb leads down from the workspace. -/
theorem placeOf_eq_append_rootSteps {p : Project}
    (relative : Path.isAnchored (Path.forward p.root.toList) = false)
    (down : Path.up ∉ Path.rootSteps p.root) :
    t.placeOf p =
      Disk.placeOf (Path.absolute "/" t.location) ++ (Path.rootSteps p.root).map String.ofList := by
  have hresolved : Path.steps (t.folderOf p).toList =
      Path.collapse true (Path.steps t.location.toList) ++ Path.rootSteps p.root := by
    rw [Path.rootSteps, relative] at down ⊢
    rw [folderOf, Path.steps_resolve_of_relative absolute relative,
      Path.collapse_append_straight true _ down]
  rw [placeOf, Disk.placeOf_eq, hresolved, placeOf_absolute absolute, List.map_append]

/-- Where anything is found in the folder of a project below the workspace, the first name on the
    way there is a name in the workspace's folder. -/
theorem mem_keys_of_at?_childrenOf {p : Project}
    (relative : Path.isAnchored (Path.forward p.root.toList) = false)
    (down : Path.up ∉ Path.rootSteps p.root) {names : List String} (hne : names ≠ [])
    {found : Entry} (hfound : (Entry.folder (t.childrenOf p)).at? names = some found) :
    ∀ first ∈ ((Path.rootSteps p.root).map String.ofList ++ names).head?,
      first ∈ Table.keys t.tree.children := by
  intro first hfirst
  have hfolder := tree_at?_of_placeOf absolute (placeOf_eq_append_rootSteps absolute relative down)
    hne hfound
  have hat : t.tree.at? ((Path.rootSteps p.root).map String.ofList ++ names) = some found := by
    rw [Entry.at?_append, hfolder, Option.bind_some, hfound]
  obtain ⟨rest, hway⟩ := List.head?_eq_some_iff.1 hfirst
  rw [hway] at hat
  exact Entry.mem_keys_of_at? hat

omit absolute in
/-- The path of a file that is walked for a project ends as the file's name does, not in a blank. -/
theorem exists_getLast?_underRoot {rules : Workspace.WalkRules}
    (hextensions : rules.extensions ⊆ Evidence.lexicalExtensions) {names : List String}
    (h : ∀ n ∈ names, isName n = true) {name : String} (hname : names.getLast? = some name)
    (admitted : rules.admits name = true) (root : String) :
    ∃ c ∈ (Path.underRoot root (joined names)).toList.getLast?, Text.isBlank c = false := by
  have hne : names ≠ [] := List.ne_nil_of_mem (List.mem_of_getLast? hname)
  have hends : names.dropLast ++ [name] = names := List.dropLast_append_getLast? name hname
  have hlast : (Path.underRoot root (joined names)).toList.getLast? = name.toList.getLast? := by
    rw [Path.toList_underRoot h hne,
      List.getLast?_append_of_ne_nil _ (Path.toList_joined_ne_nil h hne), ← hends,
      Path.getLast?_toList_joined (h name (List.mem_of_getLast? hname))]
  rw [hlast]
  exact getLast?_of_admits hextensions admitted

/-- A file that is walked for a project shows something for the project's root exactly if all such
    files do. -/
theorem shows_walked_iff (plain : t.IsPlainlyNamed projects) {p : Project}
    (hp : p ∈ projects.values) {scope : ScanScope} {extensions : List String}
    (hextensions : extensions ⊆ Evidence.lexicalExtensions) {f : Workspace.FoundFile}
    (hf : f ∈ Evidence.filesOf scope extensions (t.childrenOf p)) :
    (∀ n ∈ f.steps, isName n = true) ∧
      (Dependency.Shows (Path.underRoot p.root f.path) p.root ↔ Path.keepsFiles p.root = true) := by
  have htree := plain.folders p hp
  have hreaches := Workspace.reaches_of_mem_walk htree.wellNamed hf
  have hsteps := htree.isName_of_at? hreaches.isFile
  obtain ⟨name, hname, hadmitted⟩ := hreaches.admitted
  have hne : f.steps ≠ [] := List.ne_nil_of_mem (List.mem_of_getLast? hname)
  have hfile : f.path = joined f.steps := rfl
  have hlast := exists_getLast?_underRoot hextensions hsteps hname hadmitted p.root
  have hbegins : Text.beginsBlank (Path.underRoot p.root (joined f.steps)) = false := by
    apply Path.beginsBlank_underRoot hsteps hne
    intro relative down first hfirst
    exact plain.noBlank first
      (mem_keys_of_at?_childrenOf absolute relative down hne hreaches.isFile first hfirst)
  rw [hfile]
  exact ⟨hsteps, Path.shows_underRoot_iff hsteps hne hbegins hlast⟩

/-- A mention in a project's sources shows something for the project's root exactly if all mentions
    do. If it names a line, the line is one of a file. -/
theorem shows_mention_iff (plain : t.IsPlainlyNamed projects) {p : Project}
    (hp : p ∈ projects.values) {scanner : IncludeScanner} {mentions : List Reference}
    (hmentions : scanner.mentions t.disk t.toolchain (t.folderOf p) p.root = .ok mentions)
    {r : Reference} (hr : r ∈ mentions) :
    (∀ n ∈ r.line, 0 < n) ∧
      (Dependency.Shows r.file p.root ↔ Path.keepsFiles p.root = true) := by
  have hsite : scanner.mentions (t.site projects).disk (t.site projects).toolchain
      ((t.site projects).folderOf p) p.root = .ok mentions := hmentions
  obtain ⟨scope, extensions, hendings, f, hwalked, hpath, hline⟩ :=
    Site.exists_walked_of_mem_mentions hsite hr
  obtain ⟨hsteps, hshows⟩ := shows_walked_iff absolute plain hp hendings hwalked
  have hforward : Path.toForward f.path = f.path := Path.toForward_joined hsteps
  rw [hforward, or_self] at hpath
  rw [hpath]
  exact ⟨hline, hshows⟩

/-! ## The two searches -/

variable (ignores : t.toolchain.IgnoresRepeatedFlags) (keyed : KeyedByName projects)
  (plain : t.IsPlainlyNamed projects)

include ignores keyed plain

/-- Of what a project's sources include the same is kept, first mentions or all. -/
theorem includes_sameUpTo {p : Project} (hp : p ∈ projects.values) (scanner : IncludeScanner) :
    SameUpTo Resolution.KeepsSame ((EvidenceKind.includes scanner).resolutions (t.site projects) p)
      ((EvidenceKind.includes scanner).exhaustiveResolutions (t.site projects) p) := by
  unfold EvidenceKind.resolutions EvidenceKind.exhaustiveResolutions
  dsimp only
  rw [Site.includeResolutions_eq_resolutionsOf]
  have hscans : SameUpTo
      (fun first all => first = Reference.first all ∧
        scanner.mentions t.disk t.toolchain (t.folderOf p) p.root = .ok all)
      (scanner.scan t.disk t.toolchain (t.folderOf p) p.root)
      (scanner.exhaustiveMentions t.disk t.toolchain (t.folderOf p) p.root) := by
    rw [scan_eq_first_mentions, exhaustiveMentions_eq ignores]
    cases hmentions : scanner.mentions t.disk t.toolchain (t.folderOf p) p.root with
    | error e => exact .error e
    | ok mentions => exact .ok ⟨rfl, rfl⟩
  have known : (t.site projects).atlas.projects.get? p.name = some p := keyed.get?_name hp
  refine Site.resolutionsOf_sameUpTo (Resolution.KeepsSame.refl []) hscans ?_
  intro first all h
  obtain ⟨rfl, hmentions⟩ := h
  apply Resolution.keepsSame_first
  intro r hr r' hr' hpath
  obtain ⟨hline, hshows⟩ := shows_mention_iff absolute plain hp hmentions hr
  obtain ⟨hline', hshows'⟩ := shows_mention_iff absolute plain hp hmentions hr'
  exact Site.ends_resolve_congr known hpath hline hline' (hshows.trans hshows'.symm)

omit absolute ignores plain in
/-- Of what a project's Makefile refers to the same is kept, first flags or all. -/
theorem makefile_sameUpTo {p : Project} (hp : p ∈ projects.values) :
    SameUpTo Resolution.KeepsSame (EvidenceKind.makefile.resolutions (t.site projects) p)
      (EvidenceKind.makefile.exhaustiveResolutions (t.site projects) p) := by
  have known : (t.site projects).atlas.projects.get? p.name = some p := keyed.get?_name hp
  unfold EvidenceKind.resolutions EvidenceKind.exhaustiveResolutions Site.makefileResolutions
    Site.exhaustiveMakefileResolutions
  dsimp only
  cases (t.site projects).disk.readMakefile ((t.site projects).folderOf p) with
  | error e => exact .error e
  | ok makefile =>
    cases makefile with
    | none => exact .ok (Resolution.KeepsSame.refl [])
    | some text =>
      refine .ok ?_
      rw [Evidence.makefileReferences_eq, Evidence.exhaustiveMakefileReferences, List.map_append,
        List.map_append, Evidence.flagReferences_eq_first]
      refine Resolution.isBlockwise_keepsSame.append ?_ (Resolution.KeepsSame.refl _)
      apply Resolution.keepsSame_first
      intro r hr r' hr' hpath
      -- all flags are shown by the Makefile itself, in one of its lines
      obtain ⟨flag, hflag, rfl⟩ := List.mem_map.1 hr
      obtain ⟨flag', hflag', rfl⟩ := List.mem_map.1 hr'
      have hline := Makefile.line_pos_of_mem_allFlags (List.mem_filter.1 hflag).1
      have hline' := Makefile.line_pos_of_mem_allFlags (List.mem_filter.1 hflag').1
      exact Site.ends_resolve_congr known hpath
        (fun n hn => Option.some.inj hn ▸ hline) (fun n hn => Option.some.inj hn ▸ hline') Iff.rfl

omit absolute ignores keyed plain in
/-- The strategies for one kind of evidence are related as what is shown is. -/
private theorem strategiesRelated_exhaustive {R : List Resolution → List Resolution → Prop}
    {site : Site} {p : Project} {kind : EvidenceKind}
    (shown : SameUpTo R (kind.resolutions site p) (kind.exhaustiveResolutions site p)) :
    StrategiesRelated R p (kind.strategy site) (kind.exhaustiveStrategy site) :=
  ⟨rfl, shown.mapError _⟩

/-- Whatever kinds of evidence are looked for: the search finds what the exhaustive search finds. -/
theorem dependenciesBy_eq_exhaustive (kinds : List EvidenceKind) (changed : Option (List String)) :
    Inference.dependencies (kinds.map fun kind => kind.strategy (t.site projects)) projects
        changed =
      Inference.dependencies (kinds.map fun kind => kind.exhaustiveStrategy (t.site projects))
        projects changed := by
  have hshown : ∀ p ∈ projects.values, ∀ kind : EvidenceKind,
      SameUpTo Resolution.KeepsSame (kind.resolutions (t.site projects) p)
        (kind.exhaustiveResolutions (t.site projects) p) := by
    intro p hp kind
    cases kind with
    | includes scanner => exact includes_sameUpTo absolute ignores keyed plain hp scanner
    | makefile => exact makefile_sameUpTo keyed hp
  have hstrategies : ∀ p ∈ visited projects changed,
      List.Forall₂ (StrategiesRelated Resolution.KeepsSame p)
        (kinds.map fun kind => kind.strategy (t.site projects))
        (kinds.map fun kind => kind.exhaustiveStrategy (t.site projects)) := by
    intro p hp
    rw [List.forall₂_map_left_iff, List.forall₂_map_right_iff, List.forall₂_same]
    exact fun kind _ => strategiesRelated_exhaustive (hshown p (mem_values_of_mem_visited hp) kind)
  have hsame := dependencies_sameUpTo (S := fun found found' => found = found')
    Resolution.isBlockwise_keepsSame (fun _ _ => Resolution.KeepsSame.collapse_eq) hstrategies
  exact hsame.eq fun _ _ h => Prod.ext h.1 h.2

/-- Whatever is looked for and whichever projects are visited: with projects that are entered under
    their names, in a workspace without backslashes in its names and blanks in front of them, and
    with compilers that do not mind repeated flags, the search finds the dependencies that the
    exhaustive search finds, with the same evidence and in the same order. Both say the same about
    failures, or fail in the same way. -/
theorem dependencies_eq_exhaustive (settings : Settings) (changed : Option (List String)) :
    t.dependencies settings projects changed =
      t.exhaustiveDependencies settings projects changed := by
  have hkinds := fun kinds : List EvidenceKind =>
    congrArg (Except.mapError ScanError.configuration)
      (dependenciesBy_eq_exhaustive absolute ignores keyed plain kinds changed)
  exact bind_congr hkinds

/-- What a compiler answers for a source, whatever the flags. -/
def repeatingReply (source : String) : Reply :=
  if source = "main.c" then
    .finished 0 (Text.Utf8.encode "dummy: main.c ../lib/lib.h ../lib/lib.h\n") []
  else .missing

/-- A workspace in which the program's Makefile repeats a flag, and its source an include. The
    compiler lists the header twice. -/
def repeatingTarget : Target where
  disk := ⟨[("w", .folder [
    ("app", .folder [
      ("Makefile", .file (Text.Utf8.encode "CFLAGS = -I../lib -I../lib\n")),
      ("main.c", .file
        (Text.Utf8.encode "#include \"../lib/lib.h\"\n#include \"../lib/lib.h\"\n"))]),
    ("lib", .folder [("Makefile", .file (Text.Utf8.encode "build:\n"))])])]⟩
  toolchain := ⟨fun _ => true, fun _ => .finished 0 [] [], fun _ command =>
    repeatingReply (command.getLastD "")⟩
  location := "/w"

omit absolute ignores keyed plain in
/-- The search with the compiler finds there what the exhaustive search finds. -/
theorem dependencies_eq_exhaustive_repeating :
    ∃ nodes, repeatingTarget.nodes {} = .ok nodes ∧
      projectsOf nodes = sampleProjects ∧
      Path.isAnchored repeatingTarget.location.toList = true ∧
      repeatingTarget.toolchain.IgnoresRepeatedFlags ∧ KeyedByName (projectsOf nodes) ∧
      repeatingTarget.IsPlainlyNamed (projectsOf nodes) ∧
      repeatingTarget.dependencies {} (projectsOf nodes) none =
        repeatingTarget.exhaustiveDependencies {} (projectsOf nodes)
          none := by
  have hnodes : ∃ nodes, repeatingTarget.nodes {} = .ok nodes ∧
      projectsOf nodes = sampleProjects :=
    exists_nodes_of_table [⟨"app", "app"⟩, ⟨"lib", "lib"⟩] (by decide +kernel) (by decide +kernel)
      (by decide +kernel) (by decide +kernel) (by decide)
  obtain ⟨nodes, built, hprojects⟩ := hnodes
  have absolute : Path.isAnchored repeatingTarget.location.toList = true := by decide
  have ignores : repeatingTarget.toolchain.IgnoresRepeatedFlags := by
    have scripted : ∀ folder compiler flags source,
        repeatingTarget.toolchain.list folder (Evidence.listingCommand compiler flags source) =
          (fun _ => repeatingReply) folder source := by
      intro folder compiler flags source
      simp only [repeatingTarget, Evidence.listingCommand, List.getLastD_concat]
    exact Toolchain.ignoresRepeatedFlags_of_scripted scripted
  have keyed : KeyedByName (projectsOf nodes) := Graph.keyedByName_projectsOf nodes
  have plain : repeatingTarget.IsPlainlyNamed (projectsOf nodes) :=
    isPlainlyNamed_projectsOf built (by decide +kernel) absolute (by decide +kernel)
  exact ⟨nodes, built, hprojects, absolute, ignores, keyed, plain,
    dependencies_eq_exhaustive absolute ignores keyed plain _ none⟩

end Inference.Target

end MakeAtlas
