import MakeAtlas.Evidence.Reference
import MakeAtlas.Source.Include
import MakeAtlas.Workspace.Contents
import MakeAtlas.Workspace.Walk

/-!
# References found in sources

The sources and headers of a project are read for include directives, in the order of the walk.
Bytes that are no text are passed over.
-/

namespace MakeAtlas.Evidence

open MakeAtlas.Text

/-- The endings of source files. -/
def sourceExtensions : List String := [".c", ".cpp", ".cc", ".cxx", ".c++", ".C"]

/-- The endings of header files. -/
def headerExtensions : List String := [".h", ".hpp", ".hh", ".hxx", ".h++"]

/-- The endings of the files that are read for include directives. -/
def lexicalExtensions : List String := sourceExtensions ++ headerExtensions

/-- The include directives in the contents of a file. -/
def includesIn (content : Utf8.Bytes) : List Source.Include :=
  Source.includes (String.ofList (Utf8.decodeKeeping content))

/-- The references in one file of the project at a root. -/
def fileReferences (root : String) (f : Workspace.FoundFile) : List Reference :=
  (includesIn f.content).map fun i => ⟨i.path, Path.underRoot root f.path, some i.line⟩

/-- The files of a project that are looked at for an ending. -/
def filesOf (scope : ScanScope) (extensions : List String) (children : List (String × Entry)) :
    List Workspace.FoundFile :=
  Workspace.WalkRules.walk ⟨extensions, scope.excludeDirs⟩ (scope.maxFiles.map Int.ofNat) children

/-- The references in the sources and headers of a project. -/
def lexicalReferences (scope : ScanScope) (root : String) (children : List (String × Entry)) :
    List Reference :=
  Reference.first ((filesOf scope lexicalExtensions children).flatMap (fileReferences root))

end MakeAtlas.Evidence
