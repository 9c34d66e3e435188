import MakeAtlas.Evidence.Strategy

/-!
# The references of a project, in order

A project's references are looked at in a fixed order: what its sources include, in the order of the
walk and each path once; then the include flags of its Makefile, in the order of the text; then the
prerequisites of its rules. What a kind of evidence shows is what becomes of its references.

## Key results

- `scan_eq_first_mentions`: a scan reports the first mention of each path
- `mem_makefileReferences_iff`: which mentions of a Makefile are references
- `found_includes`: what sources show
- `found_makefile`: what Makefiles show, flags before prerequisites
-/

namespace MakeAtlas

/-! ## Mentions in sources -/

/-- Every mention of a path in the sources of a project, repeated ones included: file by file in the
    order of the walk, and in the order of each file. -/
def IncludeScanner.mentions (scanner : IncludeScanner) (disk : Disk) (toolchain : Toolchain)
    (folder root : String) : Except FileError (List Reference) :=
  match scanner with
  | .lexical scope =>
    (disk.entriesOf folder).map fun children =>
      (Evidence.filesOf scope Evidence.lexicalExtensions children).flatMap
        (Evidence.fileReferences root)
  | .compiler scope command =>
    (Evidence.Listing.ofFolder disk scope command folder).map fun listing =>
      listing.sources.flatMap (listing.sourceReferences toolchain root)

/-- A scan reports the first mention of each path. -/
theorem scan_eq_first_mentions (scanner : IncludeScanner) (disk : Disk) (toolchain : Toolchain)
    (folder root : String) :
    scanner.scan disk toolchain folder root =
      (scanner.mentions disk toolchain folder root).map Reference.first := by
  cases scanner with
  | lexical scope =>
    simp only [IncludeScanner.scan, IncludeScanner.mentions]
    cases disk.entriesOf folder <;> rfl
  | compiler scope command =>
    simp only [IncludeScanner.scan, IncludeScanner.mentions]
    cases Evidence.Listing.ofFolder disk scope command folder <;> rfl

/-! ## References in Makefiles -/

namespace Evidence

/-- A Makefile mentions a path on the line with a number: by an include flag, or as a prerequisite
    of a rule. -/
def Mentions (text path : String) (number : Nat) : Prop :=
  ⟨path, number⟩ ∈ Makefile.flags text ∨
    ∃ rule ∈ Makefile.rules text, rule.line = number ∧ path ∈ rule.prerequisites

/-- The references of a Makefile are its mentions of paths that climb out of its project. -/
theorem mem_makefileReferences_iff {file text : String} {r : Reference} :
    r ∈ makefileReferences file text ↔ Path.climbs r.path = true ∧ r.file = file ∧
      ∃ number, r.line = some number ∧ Mentions text r.path number := by
  simp only [makefileReferences, List.mem_map, List.mem_filter, List.mem_append, List.mem_flatMap,
    Prod.exists]
  constructor
  · rintro ⟨path, number, ⟨hmentioned, hclimbs⟩, rfl⟩
    refine ⟨hclimbs, rfl, number, rfl, ?_⟩
    rcases hmentioned with ⟨flag, hflag, hsame⟩ | ⟨rule, hrule, path', hpath, hsame⟩
    · cases hsame
      exact Or.inl hflag
    · cases hsame
      exact Or.inr ⟨rule, hrule, rfl, hpath⟩
  · obtain ⟨path, file', line⟩ := r
    rintro ⟨hclimbs, rfl, number, rfl, hflag | ⟨rule, hrule, rfl, hpath⟩⟩
    · exact ⟨path, number, ⟨Or.inl ⟨_, hflag, rfl⟩, hclimbs⟩, rfl⟩
    · exact ⟨path, rule.line, ⟨Or.inr ⟨rule, hrule, path, hpath, rfl⟩, hclimbs⟩, rfl⟩

/-- The include flags of a Makefile that climb out of its project, in the order of the text. -/
def flagReferences (file text : String) : List Reference :=
  ((Makefile.flags text).filter fun flag => Path.climbs flag.path).map fun flag =>
    ⟨flag.path, file, some flag.line⟩

/-- The prerequisites of a Makefile's rules that climb out of its project, in the order of the
    text. -/
def prerequisiteReferences (file text : String) : List Reference :=
  (Makefile.rules text).flatMap fun rule =>
    (rule.prerequisites.filter Path.climbs).map fun path => ⟨path, file, some rule.line⟩

/-- A Makefile's references are its flags and then its prerequisites. -/
theorem makefileReferences_eq (file text : String) :
    makefileReferences file text =
      flagReferences file text ++ prerequisiteReferences file text := by
  simp only [makefileReferences, flagReferences, prerequisiteReferences, List.filter_append,
    List.map_append, List.filter_flatMap, List.map_flatMap, List.filter_map, List.map_map,
    Function.comp_def]

end Evidence

namespace Site

/-- The mentions in a project's sources. A project without a folder has none, and neither has one
    that cannot be scanned. -/
def sourceMentions (site : Site) (scanner : IncludeScanner) (p : Project) : List Reference :=
  match site.disk.isFolder "/" (site.folderOf p),
    scanner.mentions site.disk site.toolchain (site.folderOf p) p.root with
  | .ok true, .ok mentions => mentions
  | _, _ => []

/-- The text of a project's Makefile. One that is not there, or cannot be read, is empty. -/
def makefileText (site : Site) (p : Project) : String :=
  match site.disk.readMakefile (site.folderOf p) with
  | .ok (some text) => String.ofList text
  | _ => ""

/-- What a project's sources include, each path once. -/
def includeReferences (site : Site) (scanner : IncludeScanner) (p : Project) : List Reference :=
  Reference.first (site.sourceMentions scanner p)

/-- What the include flags and then the rules of a project's Makefile name. -/
def makefileReferences (site : Site) (p : Project) : List Reference :=
  Evidence.flagReferences (makefileOf p) (site.makefileText p) ++
    Evidence.prerequisiteReferences (makefileOf p) (site.makefileText p)

/-- All references of a project: those of its sources before those of its Makefile. -/
def references (site : Site) (scanner : IncludeScanner) (p : Project) : List Reference :=
  site.includeReferences scanner p ++ site.makefileReferences p

end Site

/-! ## What a kind of evidence shows -/

namespace EvidenceKind

/-- What a kind of evidence shows about a project; a failure shows nothing. -/
def found (kind : EvidenceKind) (site : Site) (p : Project) : List Resolution :=
  match kind.resolutions site p with
  | .ok resolutions => resolutions
  | .error _ => []

/-- Sources show what becomes of their includes. -/
theorem found_includes (site : Site) (scanner : IncludeScanner) (p : Project) :
    (EvidenceKind.includes scanner).found site p =
      (site.includeReferences scanner p).map (site.resolve p) := by
  unfold found resolutions
  simp only
  unfold Site.includeResolutions Site.includeReferences Site.sourceMentions
  simp only [scan_eq_first_mentions]
  generalize site.disk.isFolder "/" (site.folderOf p) = folder
  generalize scanner.mentions site.disk site.toolchain (site.folderOf p) p.root = mentions
  cases folder with
  | error e => simp [bind, Except.bind, Reference.first, distinctBy, distinctFrom]
  | ok isFolder =>
    cases isFolder with
    | false => simp [bind, Except.bind, Reference.first, distinctBy, distinctFrom]
    | true =>
      cases mentions with
      | error e => simp [bind, Except.bind, Except.map, Reference.first, distinctBy, distinctFrom]
      | ok mentions => simp [bind, Except.bind, Except.map]

/-- An empty Makefile refers to nothing. -/
private theorem makefileReferences_empty (file : String) :
    Evidence.flagReferences file "" ++ Evidence.prerequisiteReferences file "" = [] := by
  have hflags : Makefile.flags "" = [] := by
    simp [Makefile.flags, Makefile.allFlags, Makefile.flagsFrom, distinctBy, distinctFrom]
  have hrules : Makefile.rules "" = [] := by
    simp [Makefile.rules, Text.lines]
  rw [Evidence.flagReferences, Evidence.prerequisiteReferences, hflags, hrules]
  rfl

/-- Makefiles show what becomes of their flags and prerequisites. -/
theorem found_makefile (site : Site) (p : Project) :
    EvidenceKind.makefile.found site p =
      (site.makefileReferences p).map (site.resolve p) := by
  unfold found resolutions
  simp only
  unfold Site.makefileResolutions Site.makefileReferences Site.makefileText
  simp only [Evidence.makefileReferences_eq]
  generalize site.disk.readMakefile (site.folderOf p) = contents
  cases contents with
  | error e => simp only [bind, Except.bind, makefileReferences_empty, List.map_nil]
  | ok text =>
    cases text with
    | none => simp only [bind, Except.bind, makefileReferences_empty, List.map_nil]
    | some text => rfl

end EvidenceKind

end MakeAtlas
