import MakeAtlas.Evidence.Strategy
import MakeAtlas.Settings.Basic
import MakeAtlas.Toolchain.Choice

/-!
# Registered scanners

Which kind of scanner serves which mode, and the kinds of evidence that settings ask for: what
sources include, found by the scanner of the settings' mode, and then what Makefiles refer to.
-/

namespace MakeAtlas

/-- The kinds of scanners by the names of their modes. -/
abbrev Registry := Table ScannerKind

namespace Registry

/-- The scanners that are there from the start. -/
def standard : Registry :=
  [("manual", .lexical), ("gcc", .compiler), ("clang", .compiler)]

/-- The modes that are served, in order. -/
def modes (registry : Registry) : List String :=
  (Table.keys registry).mergeSort (· ≤ ·)

/-- What is said of a mode that is not served. -/
def unserved (registry : Registry) (mode : String) : String :=
  let names := String.intercalate ", " registry.modes
  "No include scanner registered for '" ++ mode ++ "'; available: " ++
    if names.isEmpty then "none" else names

/-- The kind of scanner for a mode. -/
def get (registry : Registry) (mode : String) : Except String ScannerKind :=
  match Table.get? registry mode with
  | some kind => .ok kind
  | none => .error (registry.unserved mode)

/-- Sets the kind of scanner for a mode. -/
def register (registry : Registry) (mode : String) (kind : ScannerKind) : Registry :=
  Table.put registry mode kind

/-- What is said when a mode is set that is already served. -/
def overwriting (registry : Registry) (mode : String) (kind : ScannerKind) : Option String :=
  (Table.get? registry mode).map fun old =>
    "Overwriting existing scanner for mode '" ++ mode ++ "': " ++ old.title ++ " -> " ++ kind.title

end Registry

/-- Why settings ask for evidence that cannot be found. -/
inductive EvidenceError where
  | choice (e : ChoiceError)
  /-- No scanner serves the mode. -/
  | unserved (reason : String)
  /-- The scanner needs a compiler, and the mode asks for none. -/
  | noCompiler
  deriving DecidableEq, Repr

namespace EvidenceError

/-- What is said when evidence cannot be found. -/
def message : EvidenceError → String
  | .choice e => e.message
  | .unserved reason => Text.quoted reason
  | .noCompiler => ScannerKind.compiler.title ++ " requires a resolved compiler"

/-- Whether the user has to mend the settings. -/
def isConfiguration : EvidenceError → Bool
  | .choice (.unavailable _ _) => true
  | .unserved _ => true
  | .choice (.unknownMode _) => false
  | .noCompiler => false

end EvidenceError

namespace Settings

/-- Which files of a project the settings admit. -/
def scope (s : Settings) : ScanScope :=
  ⟨s.excludeDirs, s.maxFiles⟩

/-- The scanner of the settings' mode, given its kind and compiler. -/
def scanner (s : Settings) : ScannerKind → Option Compiler → Except EvidenceError IncludeScanner
  | .lexical, _ => .ok (.lexical s.scope)
  | .compiler, some c => .ok (.compiler s.scope c.command)
  | .compiler, none => .error .noCompiler

/-- The kinds of evidence that settings ask for. The compiler is looked at before anything else. -/
def evidence (s : Settings) (registry : Registry) (toolchain : Toolchain) :
    Except EvidenceError (List EvidenceKind) :=
  match toolchain.check s.mode with
  | .error e => .error (.choice e)
  | .ok compiler =>
    match registry.get s.mode.name with
    | .error reason => .error (.unserved reason)
    | .ok kind => (s.scanner kind compiler).map fun scanner => [.includes scanner, .makefile]

end Settings

end MakeAtlas
