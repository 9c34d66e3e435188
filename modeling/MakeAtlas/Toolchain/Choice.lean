import MakeAtlas.Text.Quoted
import MakeAtlas.Toolchain.Reply

/-!
# Choosing a compiler

A mode asks for a compiler by name, or for none. The compiler has to be installed and has to answer
when asked for its version.
-/

namespace MakeAtlas

/-- Why no compiler can be chosen. -/
inductive ChoiceError where
  | unknownMode (name : String)
  | unavailable (c : Compiler) (detail : String)
  deriving DecidableEq, Repr

/-- What is said when no compiler can be chosen. -/
def ChoiceError.message : ChoiceError → String
  | .unknownMode name =>
    "Unknown dependency compiler '" ++ name ++ "'; expected one of (" ++
      String.intercalate ", " (ScanMode.all.map fun mode => Text.quoted mode.name) ++ ")"
  | .unavailable c detail =>
    "Compiler '" ++ c.command ++ "' is not available. Install " ++ c.command ++
      " or set dependencyCompiler to 'manual' in the workspace configuration (makegraph.toml). (" ++
      detail ++ ")"

namespace Toolchain

/-- The seconds that a compiler may take to tell its version. -/
def versionTimeout : Nat := 30

/-- Why a compiler cannot be used, if it cannot. -/
def problem (toolchain : Toolchain) (c : Compiler) : Option String :=
  let command := "Command '" ++ Text.quotedList [c.command, "--version"] ++ "' "
  if !toolchain.isInstalled c then some "not found on PATH"
  else
    match toolchain.version c with
    | .timeout => some (command ++ "timed out after " ++ toString versionTimeout ++ " seconds")
    | .missing => some ("[Errno 2] No such file or directory: " ++ Text.quoted c.command)
    | .finished exit _ _ => if exit = 0 then none else some (command ++ Reply.ending exit)

/-- The compiler that a mode needs, if it can be used. -/
def check (toolchain : Toolchain) : ScanMode → Except ChoiceError (Option Compiler)
  | .manual => .ok none
  | .compiler c =>
    match toolchain.problem c with
    | none => .ok (some c)
    | some detail => .error (.unavailable c detail)

/-- The compiler for the name of a mode; no name asks for the first compiler. -/
def choose (toolchain : Toolchain) (name : String) : Except ChoiceError (Option Compiler) :=
  match ScanMode.ofName? (if name.isEmpty then Compiler.gcc.command else name) with
  | some mode => toolchain.check mode
  | none => .error (.unknownMode name)

end Toolchain

end MakeAtlas
