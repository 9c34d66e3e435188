/-!
# Ways to find included headers

Headers are found by a compiler that lists them, or by reading the sources themselves.
-/

namespace MakeAtlas

/-- A compiler that can list the headers of a source. -/
inductive Compiler where
  | gcc
  | clang
  deriving DecidableEq, Repr

/-- The command that runs a compiler. -/
def Compiler.command : Compiler → String
  | .gcc => "gcc"
  | .clang => "clang"

/-- How headers are found: by a compiler, or by reading the sources. -/
inductive ScanMode where
  | compiler (c : Compiler)
  | manual
  deriving DecidableEq, Repr

namespace ScanMode

/-- The name of a mode. -/
def name : ScanMode → String
  | .compiler c => c.command
  | .manual => "manual"

/-- All modes, compilers first. -/
def all : List ScanMode :=
  [.compiler .gcc, .compiler .clang, .manual]

/-- The mode of a name. -/
def ofName? (name : String) : Option ScanMode :=
  all.find? fun mode => mode.name == name

end ScanMode

end MakeAtlas
