import MakeAtlas.Inference.Scan
import MakeAtlas.Proofs.DistinctBlocks
import MakeAtlas.Proofs.Evidence.References
import MakeAtlas.Proofs.Inference.ComparedRuns

/-!
# Exhaustive evidence

A scan reports the first mention of each path, and the include flags of a Makefile are read once for
each path. The exhaustive search leaves nothing out: it looks at every mention in the sources and at
every flag, be it as a reference of the Makefile or in the commands that a compiler is given.

## Key results

- `Target.exhaustiveDependencies`: the exhaustive search of a workspace
- `exhaustiveMentions_eq`: with compilers that ignore repeated flags, sources mention the same
- `flagReferences_eq_first`: the flags of a Makefile are the first ones of all
-/

namespace MakeAtlas

/-! ## Sources -/

/-- The listing of the project in a folder, with every flag of the Makefile in the commands. -/
def Evidence.Listing.exhaustive (disk : Disk) (scope : ScanScope) (compiler folder : String) :
    Except FileError Evidence.Listing := do
  let makefile ← disk.readMakefile folder
  let flags := (Makefile.allFlags (String.ofList (makefile.getD []))).map Makefile.Flag.path
  let children ← disk.entriesOf folder
  let files := Evidence.filesOf scope Evidence.sourceExtensions children
  .ok ⟨compiler, flags, folder, files.map fun f => Path.toForward f.path⟩

/-- Every mention of a path in the sources of a project, of which a compiler is given every flag. -/
def IncludeScanner.exhaustiveMentions (scanner : IncludeScanner) (disk : Disk)
    (toolchain : Toolchain) (folder root : String) : Except FileError (List Reference) :=
  match scanner with
  | .lexical scope => (IncludeScanner.lexical scope).mentions disk toolchain folder root
  | .compiler scope command =>
    (Evidence.Listing.exhaustive disk scope command folder).map fun listing =>
      listing.sources.flatMap (listing.sourceReferences toolchain root)

/-- The compilers answer alike whether or not a command repeats include flags. -/
def Toolchain.IgnoresRepeatedFlags (toolchain : Toolchain) : Prop :=
  ∀ folder compiler flags source,
    toolchain.list folder (Evidence.listingCommand compiler (distinctBy id flags) source) =
      toolchain.list folder (Evidence.listingCommand compiler flags source)

/-- Compilers do so if what they answer is settled for each source, whatever the flags. -/
theorem Toolchain.ignoresRepeatedFlags_of_scripted {toolchain : Toolchain}
    {reply : (folder source : String) → Reply}
    (scripted : ∀ folder compiler flags source,
      toolchain.list folder (Evidence.listingCommand compiler flags source) =
        reply folder source) : toolchain.IgnoresRepeatedFlags := by
  intro folder compiler flags source
  rw [scripted, scripted]

namespace Evidence.Listing

/-- A listing is the exhaustive one with every flag once. -/
theorem ofFolder_eq_exhaustive (disk : Disk) (scope : ScanScope) (compiler folder : String) :
    ofFolder disk scope compiler folder =
      (exhaustive disk scope compiler folder).map fun listing =>
        { listing with flags := distinctBy id listing.flags } := by
  have hflags : ∀ text : String, (Makefile.flags text).map Makefile.Flag.path =
      distinctBy id ((Makefile.allFlags text).map Makefile.Flag.path) := by
    intro text
    rw [distinctBy_map]
    rfl
  unfold ofFolder exhaustive
  cases disk.readMakefile folder with
  | error e => rfl
  | ok makefile =>
    cases disk.entriesOf folder with
    | error e => rfl
    | ok children => simp only [bind, Except.bind, Except.map, hflags]

/-- Compilers that ignore repeated flags mention the same, whether or not they are given some. -/
theorem sourceReferences_distinctBy {toolchain : Toolchain}
    (ignores : toolchain.IgnoresRepeatedFlags) (listing : Listing) (root : String) :
    { listing with flags := distinctBy id listing.flags }.sourceReferences toolchain root =
      listing.sourceReferences toolchain root := by
  funext source
  have hreply := ignores listing.folder listing.compiler listing.flags source
  unfold sourceReferences command
  dsimp only
  rw [hreply]

end Evidence.Listing

/-- Whoever reads the sources: every mention is mentioned without repeated flags as well. -/
theorem exhaustiveMentions_eq {toolchain : Toolchain} (ignores : toolchain.IgnoresRepeatedFlags)
    (scanner : IncludeScanner) (disk : Disk) (folder root : String) :
    scanner.exhaustiveMentions disk toolchain folder root =
      scanner.mentions disk toolchain folder root := by
  cases scanner with
  | lexical scope => rfl
  | compiler scope command =>
    unfold IncludeScanner.exhaustiveMentions IncludeScanner.mentions
    dsimp only
    rw [Evidence.Listing.ofFolder_eq_exhaustive]
    cases Evidence.Listing.exhaustive disk scope command folder with
    | error e => rfl
    | ok listing =>
      simp only [Except.map, Evidence.Listing.sourceReferences_distinctBy ignores]

/-! ## Makefiles -/

namespace Evidence

/-- Every include flag of a Makefile that climbs out of its project. -/
def exhaustiveFlagReferences (file text : String) : List Reference :=
  ((Makefile.allFlags text).filter fun flag => Path.climbs flag.path).map fun flag =>
    ⟨flag.path, file, some flag.line⟩

/-- The references of a Makefile with every flag. -/
def exhaustiveMakefileReferences (file text : String) : List Reference :=
  exhaustiveFlagReferences file text ++ prerequisiteReferences file text

/-- The flags that are read are the first ones of all. -/
theorem flagReferences_eq_first (file text : String) :
    flagReferences file text = Reference.first (exhaustiveFlagReferences file text) := by
  rw [Reference.first, exhaustiveFlagReferences, distinctBy_map, flagReferences, Makefile.flags,
    filter_distinctBy Path.climbs]

end Evidence

/-! ## The exhaustive search -/

/-- The resolutions of all that a project's Makefile refers to. -/
def Site.exhaustiveMakefileResolutions (site : Site) (p : Project) :
    Except FileError (List Resolution) := do
  match (← site.disk.readMakefile (site.folderOf p)) with
  | none => .ok []
  | some text =>
    let references := Evidence.exhaustiveMakefileReferences (makefileOf p) (String.ofList text)
    .ok (references.map (site.resolve p))

namespace EvidenceKind

/-- All that a kind of evidence shows about a project. -/
def exhaustiveResolutions (kind : EvidenceKind) (site : Site) (p : Project) :
    Except FileError (List Resolution) :=
  match kind with
  | .includes scanner =>
    site.resolutionsOf p (scanner.exhaustiveMentions site.disk site.toolchain)
  | .makefile => site.exhaustiveMakefileResolutions p

/-- The strategy that looks for all that a kind of evidence shows. -/
def exhaustiveStrategy (kind : EvidenceKind) (site : Site) : Strategy where
  name := kind.name
  find p := (kind.exhaustiveResolutions site p).mapError fun e => .recoverable e.message

end EvidenceKind

/-- The dependencies between projects that all evidence of the settings shows, and what is said
    about failures. -/
def Inference.Target.exhaustiveDependencies (t : Target) (settings : Settings)
    (projects : Table Project) (changed : Option (List String)) :
    Except ScanError (List Dependency × List String) := do
  let kinds ← (settings.evidence .standard t.toolchain).mapError .evidence
  let strategies := kinds.map fun kind => kind.exhaustiveStrategy (t.site projects)
  (Inference.dependencies strategies projects changed).mapError .configuration

end MakeAtlas
