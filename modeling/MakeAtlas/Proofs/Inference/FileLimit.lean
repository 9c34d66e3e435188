import Mathlib.Data.List.Infix
import MakeAtlas.Proofs.DistinctBlocks
import MakeAtlas.Proofs.Inference.Blocks
import MakeAtlas.Proofs.Inference.ComparedRuns
import MakeAtlas.Proofs.Inference.FirstEvidence
import MakeAtlas.Proofs.Resolution.ClimbingPaths
import MakeAtlas.Proofs.Workspace.Walking

/-!
# Fewer files show less

Settings may limit how many source files of a project are looked at. A lower limit cuts a scan
short: what it reports is the beginning of what a higher limit, or none, lets it report. Which file
is the evidence for a dependency may change with the limit, but a lower one never joins two projects
that a higher one does not join.

## Key results

- `mentions_sameUpTo_isPrefix`: what sources mention, read up to two limits
- `scan_sameUpTo_isPrefix`: what a scan reports
- `dependencies_sameUpTo_limitedTo`: which projects the dependencies join
- `lower_limit_adds_nothing`: scans and dependencies under two limits
-/

namespace MakeAtlas

/-- A scope with another limit. -/
def ScanScope.limitedTo (scope : ScanScope) (limit : Option Nat) : ScanScope :=
  { scope with maxFiles := limit }

/-- A scanner with another limit. -/
def IncludeScanner.limitedTo : IncludeScanner → (limit : Option Nat) → IncludeScanner
  | .lexical scope, limit => .lexical (scope.limitedTo limit)
  | .compiler scope command, limit => .compiler (scope.limitedTo limit) command

/-- Settings with another limit. -/
def Settings.limitedTo (s : Settings) (limit : Option Nat) : Settings :=
  { s with maxFiles := limit }

theorem Settings.chosenScanner_limitedTo (s : Settings) (limit : Option Nat) :
    (s.limitedTo limit).chosenScanner = s.chosenScanner.limitedTo limit := by
  obtain ⟨taskPrefix, mode, maxFiles, excludeDirs, groupingDirs, maxWorkers, timeout⟩ := s
  cases mode <;> rfl

/-! ## Scans -/

variable {n : Nat} {limit : Option Nat}

namespace Evidence

/-- A lower limit admits the first of the files that a higher one admits. -/
theorem filesOf_isPrefix (h : ∀ m ∈ limit, n ≤ m) (scope : ScanScope) (extensions : List String)
    (children : List (String × Entry)) :
    filesOf (scope.limitedTo (some n)) extensions children <+:
      filesOf (scope.limitedTo limit) extensions children := by
  exact Workspace.walk_isPrefix_of_le _ (Dependency.le_of_mem_map_ofNat h) children

/-- A compiler is asked about the first of the sources that it is asked about under a higher
    limit, and about each in the same way. -/
theorem Listing.ofFolder_sameUpTo (h : ∀ m ∈ limit, n ≤ m) (disk : Disk) (scope : ScanScope)
    (compiler folder : String) :
    SameUpTo (fun few many : Listing =>
        ∃ sources, few.sources <+: sources ∧ many = { few with sources })
      (ofFolder disk (scope.limitedTo (some n)) compiler folder)
      (ofFolder disk (scope.limitedTo limit) compiler folder) := by
  unfold ofFolder
  refine SameUpTo.bind (SameUpTo.refl (fun _ => rfl) _) fun makefile _ hmakefile => ?_
  subst hmakefile
  refine SameUpTo.bind (SameUpTo.refl (fun _ => rfl) _) fun children _ hchildren => ?_
  subst hchildren
  refine .ok ⟨_, ?_, rfl⟩
  exact (filesOf_isPrefix h scope sourceExtensions children).map _

end Evidence

/-- Whoever reads the sources of a project: what they mention up to a lower limit is the beginning
    of what they mention up to a higher one. -/
theorem mentions_sameUpTo_isPrefix (h : ∀ m ∈ limit, n ≤ m) (scanner : IncludeScanner)
    (disk : Disk) (toolchain : Toolchain) (folder root : String) :
    SameUpTo (fun few many => few <+: many)
      ((scanner.limitedTo (some n)).mentions disk toolchain folder root)
      ((scanner.limitedTo limit).mentions disk toolchain folder root) := by
  cases scanner with
  | lexical scope =>
    refine SameUpTo.map (SameUpTo.refl (fun _ => rfl) (disk.entriesOf folder)) ?_
    intro children _ hchildren
    subst hchildren
    exact (Evidence.filesOf_isPrefix h scope _ children).flatMap _
  | compiler scope command =>
    refine SameUpTo.map (Evidence.Listing.ofFolder_sameUpTo h disk scope command folder) ?_
    intro few many hmany
    obtain ⟨sources, hsources, rfl⟩ := hmany
    exact hsources.flatMap _

/-- What a scan reports under a lower limit is the beginning of what it reports under a higher
    one: the first mention of a path stays the first. -/
theorem scan_sameUpTo_isPrefix (h : ∀ m ∈ limit, n ≤ m) (scanner : IncludeScanner)
    (disk : Disk) (toolchain : Toolchain) (folder root : String) :
    SameUpTo (fun few many => few <+: many)
      ((scanner.limitedTo (some n)).scan disk toolchain folder root)
      ((scanner.limitedTo limit).scan disk toolchain folder root) := by
  rw [scan_eq_first_mentions, scan_eq_first_mentions]
  exact (mentions_sameUpTo_isPrefix h scanner disk toolchain folder root).map
    fun _ _ hmentions => distinctBy_isPrefix hmentions

/-! ## Dependencies -/

namespace Resolution

/-- Some resolutions join no pair of projects that others do not join. -/
def JoinsNoMore (few many : List Resolution) : Prop :=
  (dependencies few).map Dependency.ends ⊆ (dependencies many).map Dependency.ends

theorem isBlockwise_joinsNoMore : Inference.IsBlockwise JoinsNoMore where
  nil := List.Subset.refl _
  append := by
    intro as bs cs ds habs hcds
    simp only [JoinsNoMore, dependencies_append, List.map_append] at habs hcds ⊢
    exact List.append_subset.2 ⟨List.subset_append_of_subset_left _ habs,
      List.subset_append_of_subset_right _ hcds⟩

theorem JoinsNoMore.refl (resolutions : List Resolution) : JoinsNoMore resolutions resolutions :=
  List.Subset.refl _

/-- Fewer resolutions join no more projects. -/
theorem joinsNoMore_of_isPrefix {few many : List Resolution} (h : few <+: many) :
    JoinsNoMore few many := by
  obtain ⟨rest, rfl⟩ := h
  simp [JoinsNoMore, dependencies_append]

/-- One dependency is left for each pair that is joined, so no pair is lost or added. -/
theorem ends_collapse_subset {few many : List Resolution} (h : JoinsNoMore few many) :
    (collapse few).map Dependency.ends ⊆ (collapse many).map Dependency.ends := by
  intro pair hpair
  obtain ⟨d, hd, rfl⟩ := List.mem_map.1 hpair
  have hmany : d.ends ∈ (dependencies many).map Dependency.ends :=
    h (List.mem_map_of_mem (mem_of_mem_distinctBy hd))
  obtain ⟨e, he, hends⟩ := List.mem_map.1 hmany
  rw [← hends]
  exact key_mem_distinctBy he

end Resolution

/-- The sources of a project join no more projects under a lower limit. -/
theorem Site.includeResolutions_sameUpTo (h : ∀ m ∈ limit, n ≤ m) (site : Site)
    (scanner : IncludeScanner) (p : Project) :
    SameUpTo Resolution.JoinsNoMore (site.includeResolutions (scanner.limitedTo (some n)) p)
      (site.includeResolutions (scanner.limitedTo limit) p) := by
  rw [includeResolutions_eq_resolutionsOf, includeResolutions_eq_resolutionsOf]
  refine resolutionsOf_sameUpTo (Resolution.JoinsNoMore.refl [])
    (scan_sameUpTo_isPrefix h scanner _ _ _ _) ?_
  intro few many hscan
  exact Resolution.joinsNoMore_of_isPrefix (hscan.map _)

/-- The strategies under a lower limit join no more projects, one by one. -/
theorem strategiesRelated_limitedTo (h : ∀ m ∈ limit, n ≤ m) (site : Site) (p : Project)
    (scanner : IncludeScanner) :
    List.Forall₂ (Inference.StrategiesRelated Resolution.JoinsNoMore p)
      ([.includes (scanner.limitedTo (some n)), .makefile].map
        fun kind : EvidenceKind => kind.strategy site)
      ([.includes (scanner.limitedTo limit), .makefile].map
        fun kind : EvidenceKind => kind.strategy site) := by
  have hsources := site.includeResolutions_sameUpTo h scanner p
  refine .cons (Inference.strategiesRelated_strategy rfl hsources) (.cons ?_ .nil)
  -- the Makefile is read whatever the limit is
  exact Inference.strategiesRelated_strategy rfl (SameUpTo.refl Resolution.JoinsNoMore.refl _)

/-- The dependencies found under a lower limit join no more projects. -/
theorem dependencies_sameUpTo_limitedTo (h : ∀ m ∈ limit, n ≤ m) (t : Inference.Target)
    (settings : Settings) (projects : Table Project) (changed : Option (List String)) :
    SameUpTo (fun few many =>
        few.1.map Dependency.ends ⊆ many.1.map Dependency.ends ∧ few.2 = many.2)
      (t.dependencies (settings.limitedTo (some n)) projects changed)
      (t.dependencies (settings.limitedTo limit) projects changed) := by
  rw [Inference.Target.dependencies_eq_dependenciesBy,
    Inference.Target.dependencies_eq_dependenciesBy, Settings.chosenScanner_limitedTo,
    Settings.chosenScanner_limitedTo]
  -- the mode is the same under both limits
  have hmode : (settings.limitedTo (some n)).mode = (settings.limitedTo limit).mode := rfl
  rw [hmode]
  cases t.toolchain.check (settings.limitedTo limit).mode with
  | error e => exact .error _
  | ok compiler =>
    have hstrategies := fun p (_ : p ∈ Inference.visited projects changed) =>
      strategiesRelated_limitedTo h (t.site projects) p settings.chosenScanner
    have hdependencies := Inference.dependencies_sameUpTo
      (S := fun few many => few.map Dependency.ends ⊆ many.map Dependency.ends)
      Resolution.isBlockwise_joinsNoMore (fun _ _ => Resolution.ends_collapse_subset) hstrategies
    exact hdependencies.mapError _

/-! ## A program with two sources -/

namespace Inference

/-- The sources of a program, of which each mentions another project first. -/
def branchingSources : List Workspace.FoundFile :=
  [⟨["a.c"], Text.Utf8.encode "#include \"../lib/lib.h\"\n"⟩,
    ⟨["b.c"], Text.Utf8.encode "#include \"../gen/gen.h\"\n#include \"../lib/lib.h\"\n"⟩]

/-- The folder of the program. -/
def branchingFolder : List (String × Entry) :=
  ("Makefile", .file (Text.Utf8.encode "all:\n")) ::
    branchingSources.map fun f => (f.path, .file f.content)

/-- A workspace with the program and the two projects, on a machine without compilers. -/
def branchingTarget : Target where
  disk := ⟨[("w", .folder [("app", .folder branchingFolder),
    ("gen", .folder [("Makefile", .file (Text.Utf8.encode "all:\n"))]),
    ("lib", .folder [("Makefile", .file (Text.Utf8.encode "all:\n"))])])]⟩
  toolchain := ⟨fun _ => false, fun _ => .missing, fun _ _ => .missing⟩
  location := "/w"

/-- The projects of the workspace. -/
def branchingProjects : Table Project :=
  [("app", ⟨"app", "app"⟩), ("gen", ⟨"gen", "gen"⟩), ("lib", ⟨"lib", "lib"⟩)]

/-- What the first source mentions. -/
def libMention : Reference := ⟨"../lib/lib.h", "app/a.c", some 1⟩

/-- What only the second source mentions. -/
def genMention : Reference := ⟨"../gen/gen.h", "app/b.c", some 1⟩

/-- The scanner of the workspace. -/
def branchingScanner (limit : Option Nat) : IncludeScanner :=
  (Settings.chosenScanner { mode := .manual }).limitedTo limit

/-- One source or both are read, as the limit says. -/
private theorem filesOf_branching {limit : Nat} (positive : 1 ≤ limit) (fits : limit ≤ 2) :
    Evidence.filesOf ⟨Workspace.defaultExcludeDirs, some limit⟩ Evidence.lexicalExtensions
      branchingFolder = branchingSources.take limit := by
  have hsorted : Entry.sorted branchingFolder = branchingFolder := by
    simp [Entry.sorted, branchingFolder, branchingSources, Workspace.FoundFile.path, List.mergeSort]
  have hfiles : Workspace.WalkRules.files ⟨Evidence.lexicalExtensions, Workspace.defaultExcludeDirs⟩
      ⟨[], branchingFolder⟩ = branchingSources := by
    rw [Workspace.WalkRules.files, hsorted]
    decide +kernel
  have hlimit : max 1 (Int.ofNat limit).toNat = limit := Nat.max_eq_right positive
  rw [Evidence.filesOf, Workspace.WalkRules.walk, Option.map_some, Option.map_some, hlimit,
    Workspace.WalkRules.walkFrom, hfiles]
  exact if_pos fits

/-- The program's sources are scanned up to the limit. -/
private theorem scan_branching {limit : Nat} (positive : 1 ≤ limit) (fits : limit ≤ 2) :
    (branchingScanner (some limit)).scan branchingTarget.disk branchingTarget.toolchain "/w/app"
      "app" = .ok (Reference.first
        ((branchingSources.take limit).flatMap (Evidence.fileReferences "app"))) := by
  rw [← filesOf_branching positive fits]
  rfl

private theorem references_branching {limit : Nat} (positive : 1 ≤ limit) (fits : limit ≤ 2) :
    (branchingTarget.site branchingProjects).references (branchingScanner (some limit))
      ⟨"app", "app"⟩ = Reference.first
        ((branchingSources.take limit).flatMap (Evidence.fileReferences "app")) := by
  have hmakefile : (branchingTarget.site branchingProjects).makefileReferences ⟨"app", "app"⟩ = [] := by
    decide +kernel
  rw [Site.references, hmakefile, List.append_nil, ← filesOf_branching positive fits]
  rfl

/-- The mentions lead to the projects that they name. -/
private theorem outcome_libMention :
    ((branchingTarget.site branchingProjects).resolve ⟨"app", "app"⟩ libMention).outcome =
      .resolved ⟨"app", "lib", "app/a.c", some 1, by decide, by decide⟩ := by
  have hnearest : RootIndex.IsNearest "/w" branchingProjects.values "/w/lib" "/w/lib/lib.h" := by
    decide
  rw [Site.outcome_resolve]
  exact Atlas.outcome_eq_resolved_of_isNearest (by decide) (by decide) (by decide)
    ⟨by decide, by decide⟩ hnearest (by decide) ⟨rfl, rfl, rfl⟩ (by decide)

private theorem leadsTo_genMention :
    (branchingTarget.site branchingProjects).LeadsTo ⟨"app", "app"⟩ genMention "gen" := by
  have hnearest : RootIndex.IsNearest "/w" branchingProjects.values "/w/gen" "/w/gen/gen.h" := by
    decide
  refine ⟨⟨"app", "gen", "app/b.c", some 1, by decide, by decide⟩, ?_, rfl⟩
  rw [Site.outcome_resolve]
  exact Atlas.outcome_eq_resolved_of_isNearest (by decide) (by decide) (by decide)
    ⟨by decide, by decide⟩ hnearest (by decide) ⟨rfl, rfl, rfl⟩ (by decide)

/-- The second source is needed for the program to depend on the project that only it mentions. -/
private theorem joined_branching_iff {limit : Nat} (positive : 1 ≤ limit) (fits : limit ≤ 2)
    {found : List Dependency} {warnings : List String}
    (h : branchingTarget.dependencies (Settings.limitedTo { mode := .manual } (some limit))
      branchingProjects none = .ok (found, warnings)) :
    ("app", "gen") ∈ found.map Dependency.ends ↔ limit = 2 := by
  have hkeyed : KeyedByName branchingProjects := by decide
  obtain ⟨_, hblocks⟩ := branchingTarget.dependencies_eq_blocks
    (Settings.limitedTo { mode := .manual } (some limit)) hkeyed none
  obtain ⟨rfl, -⟩ := Prod.mk.inj (Except.ok.inj (h.symm.trans hblocks))
  rw [Settings.chosenScanner_limitedTo, (shownByReferences_flatMap
    (nodup_names_visited hkeyed none)).joined_iff]
  constructor
  · rintro ⟨p, hp, hname, r, hr, d, hd, htarget⟩
    have happ : p = ⟨"app", "app"⟩ := by
      have hall : ∀ q ∈ visited branchingProjects none, q.name = "app" → q = ⟨"app", "app"⟩ := by
        decide
      exact hall p hp hname
    subst happ
    by_contra hne
    obtain rfl : limit = 1 := by omega
    -- the first source mentions the library only
    have hone : Reference.first ((branchingSources.take 1).flatMap
        (Evidence.fileReferences "app")) = [libMention] := by decide +kernel
    rw [show (Settings.chosenScanner { mode := .manual }).limitedTo (some 1) =
      branchingScanner (some 1) from rfl, references_branching (by decide) (by decide), hone,
      List.mem_singleton] at hr
    subst hr
    rw [outcome_libMention] at hd
    cases hd
    exact absurd htarget (by decide)
  · rintro rfl
    have hmem : genMention ∈ Reference.first ((branchingSources.take 2).flatMap
        (Evidence.fileReferences "app")) := by decide +kernel
    rw [← references_branching (by decide) (by decide)] at hmem
    exact ⟨_, by decide, rfl, _, hmem, leadsTo_genMention⟩

end Inference

/-- Whatever the files and the compilers are, for any two limits on how many source files of a
    project are looked at, of which the second may be none at all: a scan under the lower limit
    reports the beginning of what it reports under the other, and the dependencies that are found
    under the lower limit join no two projects that are not joined under the other. Both fail, if
    they fail, in the same way. -/
theorem lower_limit_adds_nothing (h : ∀ m ∈ limit, n ≤ m) :
    (∀ (scanner : IncludeScanner) (disk : Disk) (toolchain : Toolchain) (folder root : String),
      SameUpTo (fun few many => few <+: many)
        ((scanner.limitedTo (some n)).scan disk toolchain folder root)
        ((scanner.limitedTo limit).scan disk toolchain folder root)) ∧
    ∀ (t : Inference.Target) (settings : Settings) (projects : Table Project)
      (changed : Option (List String)),
      SameUpTo (fun few many =>
          few.1.map Dependency.ends ⊆ many.1.map Dependency.ends ∧ few.2 = many.2)
        (t.dependencies (settings.limitedTo (some n)) projects changed)
        (t.dependencies (settings.limitedTo limit) projects changed) :=
  ⟨scan_sameUpTo_isPrefix h, dependencies_sameUpTo_limitedTo h⟩


/-- Of a program with two sources, a limit of one shows a part of what a limit of two shows: the
    project that only the second source mentions is missing. -/
theorem lower_limit_adds_nothing_branching :
    (∀ m ∈ some 2, 1 ≤ m) ∧
      (∃ few many,
        (Inference.branchingScanner (some 1)).scan Inference.branchingTarget.disk
          Inference.branchingTarget.toolchain "/w/app" "app" = .ok few ∧
        (Inference.branchingScanner (some 2)).scan Inference.branchingTarget.disk
          Inference.branchingTarget.toolchain "/w/app" "app" = .ok many ∧
        few <+: many ∧ few = [Inference.libMention] ∧
        many = [Inference.libMention, Inference.genMention]) ∧
      ∃ few many warnings,
        Inference.branchingTarget.dependencies (Settings.limitedTo { mode := .manual } (some 1))
          Inference.branchingProjects none = .ok (few, warnings) ∧
        Inference.branchingTarget.dependencies (Settings.limitedTo { mode := .manual } (some 2))
          Inference.branchingProjects none = .ok (many, warnings) ∧
        few.map Dependency.ends ⊆ many.map Dependency.ends ∧
        ("app", "gen") ∈ many.map Dependency.ends ∧
        ("app", "gen") ∉ few.map Dependency.ends := by
  have hle : ∀ m ∈ some 2, 1 ≤ m := by decide
  have hkeyed : KeyedByName Inference.branchingProjects := by decide
  obtain ⟨hscan, hdependencies⟩ := lower_limit_adds_nothing hle
  refine ⟨hle, ?_, ?_⟩
  · have hone := Inference.scan_branching (Nat.le_refl 1) (Nat.le_succ 1)
    have htwo := Inference.scan_branching (Nat.le_succ 1) (Nat.le_refl 2)
    have hprefix := hscan (Settings.chosenScanner { mode := .manual })
      Inference.branchingTarget.disk Inference.branchingTarget.toolchain "/w/app" "app"
    refine ⟨_, _, hone, htwo, ?_, by decide +kernel, by decide +kernel⟩
    rw [Inference.branchingScanner] at hone htwo
    rw [hone, htwo] at hprefix
    cases hprefix with
    | ok related => exact related
  · obtain ⟨warnings, hone⟩ := Inference.branchingTarget.dependencies_eq_blocks
      (Settings.limitedTo { mode := .manual } (some 1)) hkeyed none
    obtain ⟨warnings', htwo⟩ := Inference.branchingTarget.dependencies_eq_blocks
      (Settings.limitedTo { mode := .manual } (some 2)) hkeyed none
    have hsubset := hdependencies Inference.branchingTarget { mode := .manual }
      Inference.branchingProjects none
    rw [hone, htwo] at hsubset
    cases hsubset with
    | ok related =>
      obtain ⟨hends, rfl⟩ := related
      exact ⟨_, _, _, hone, htwo, hends,
        (Inference.joined_branching_iff (by decide) (by decide) htwo).2 rfl, fun hjoined =>
          absurd ((Inference.joined_branching_iff (by decide) (by decide) hone).1 hjoined)
            (by decide)⟩

end MakeAtlas
