import MakeAtlas.Evidence.Lexical
import MakeAtlas.Makefile.Flag
import MakeAtlas.Source.Depfile
import MakeAtlas.Toolchain.Reply

/-!
# References listed by a compiler

The compiler is asked for the headers of each source of a project, with the include flags of the
project's Makefile. A run that fails lists nothing. Listed paths are seen from the project's folder;
a source is no header of its own.
-/

namespace MakeAtlas.Evidence

open MakeAtlas.Text

/-- The target that a listing is to begin with. -/
def listingTarget : String := "dummy"

/-- The command that lists the headers of a source. -/
def listingCommand (compiler : String) (flags : List String) (source : String) : List String :=
  [compiler, "-MM", "-MT", listingTarget] ++ flags.map ("-I" ++ ·) ++ [source]

/-- A listed path, seen from the folder. -/
def headerPath (folder path : String) : String :=
  if Path.isAnchored path.toList then (Path.relativeTo? path folder).getD path
  else Path.normalize path

/-- The headers of a source, given the reply to its listing command. -/
def listedHeaders (folder source : String) (reply : Reply) : List String :=
  match reply.output? with
  | none => []
  | some text =>
    ((Source.Depfile.paths (String.ofList text)).map (headerPath folder)).filter
      (· != Path.normalize source)

/-- A compiler at work in a project's folder. -/
structure Listing where
  compiler : String
  flags : List String
  /-- The absolute path of the project's folder. -/
  folder : String
  /-- The sources of the project, seen from its folder. -/
  sources : List String
  deriving DecidableEq, Repr

namespace Listing

/-- The command for a source. -/
def command (l : Listing) (source : String) : List String :=
  listingCommand l.compiler l.flags source

/-- The references of one source of the project at a root. -/
def sourceReferences (l : Listing) (toolchain : Toolchain) (root source : String) :
    List Reference :=
  (listedHeaders l.folder source (toolchain.list l.folder (l.command source))).map fun header =>
    ⟨header, Path.underRoot root source, none⟩

/-- The references of a project. -/
def references (l : Listing) (toolchain : Toolchain) (root : String) : List Reference :=
  Reference.first (l.sources.flatMap (l.sourceReferences toolchain root))

/-- The commands that are run, each with its folder. -/
def runs (l : Listing) : List (String × List String) :=
  l.sources.map fun source => (l.folder, l.command source)

/-- The listing of the project in a folder. -/
def ofFolder (disk : Disk) (scope : ScanScope) (compiler folder : String) :
    Except FileError Listing := do
  let makefile ← disk.readMakefile folder
  let flags := (Makefile.flags (String.ofList (makefile.getD []))).map Makefile.Flag.path
  let children ← disk.entriesOf folder
  let files := filesOf scope sourceExtensions children
  .ok ⟨compiler, flags, folder, files.map fun f => Path.toForward f.path⟩

end Listing

end MakeAtlas.Evidence
