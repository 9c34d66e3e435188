import MakeAtlas.Evidence.Listing

/-!
# Include scanners

A scanner finds the paths that the sources of a project include: by reading them, or by asking a
compiler.
-/

namespace MakeAtlas

/-- A kind of scanner. -/
inductive ScannerKind where
  | lexical
  | compiler
  deriving DecidableEq, Repr

/-- The name of a kind of scanner. -/
def ScannerKind.title : ScannerKind → String
  | .lexical => "LexicalIncludeScanner"
  | .compiler => "CompilerIncludeScanner"

/-- A scanner, ready to be used. -/
inductive IncludeScanner where
  | lexical (scope : ScanScope)
  | compiler (scope : ScanScope) (command : String)
  deriving DecidableEq, Repr

namespace IncludeScanner

/-- The short name of a scanner. -/
def name : IncludeScanner → String
  | .lexical _ => "manual"
  | .compiler _ _ => "compiler"

/-- The references of the project at a root, whose folder has an absolute path. -/
def scan (scanner : IncludeScanner) (disk : Disk) (toolchain : Toolchain) (folder root : String) :
    Except FileError (List Reference) :=
  match scanner with
  | .lexical scope => (disk.entriesOf folder).map (Evidence.lexicalReferences scope root)
  | .compiler scope command =>
    (Evidence.Listing.ofFolder disk scope command folder).map fun listing =>
      listing.references toolchain root

/-- The commands that a scan runs, each with its folder. -/
def runs (scanner : IncludeScanner) (disk : Disk) (folder : String) :
    List (String × List String) :=
  match scanner with
  | .lexical _ => []
  | .compiler scope command =>
    match Evidence.Listing.ofFolder disk scope command folder with
    | .ok listing => listing.runs
    | .error _ => []

end IncludeScanner

end MakeAtlas
