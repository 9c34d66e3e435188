import MakeAtlas.Project.Name
import MakeAtlas.Record.Reading
import MakeAtlas.Toolchain.Mode
import MakeAtlas.Workspace.Walk

/-!
# Settings

What a user may set for a workspace. Every part has two names, one in camel case and one with
underscores, and a default. A settings record admits no other parts.
-/

namespace MakeAtlas

open MakeAtlas.Record

/-- The settings for a workspace. -/
structure Settings where
  /-- What stands in front of every task's name. -/
  taskPrefix : Option String := none
  mode : ScanMode := .compiler .gcc
  /-- The most source files that are looked at in a project. -/
  maxFiles : Option Nat := none
  excludeDirs : List String := Workspace.defaultExcludeDirs
  groupingDirs : List String := Project.defaultGroupingDirs
  maxWorkers : Nat := 8
  /-- The seconds that one run of the compiler may take. -/
  compilerTimeout : Float := 60.0

namespace Settings

/-- Whether a text can stand in front of task names. -/
def isTaskPrefix (cs : List Char) : Bool :=
  !cs.isEmpty && !cs.any fun c => c == ':' || Text.isBlank c

/-- Reads a prefix for task names. Blanks around it do not count. -/
def readPrefix (v : Value) : Reading String :=
  (text v).andThen fun given =>
    let trimmed := Text.trim given.toList
    if isTaskPrefix trimmed then .ok (String.ofList trimmed)
    else
      .fault (.rejected ("Invalid targetName '" ++ String.ofList trimmed ++
        "': must be non-empty without ':' or whitespace")) v

/-- Whether a text is the name of a folder rather than a path. -/
def isDirName (name : String) : Bool :=
  !name.isEmpty && !name.toList.any fun c => c == '/' || c == '\\'

/-- The first text that is no name of a folder. -/
def badDirName (names : List String) : Option String :=
  (names.find? fun name => !isDirName name).map fun name =>
    "Invalid directory name: " ++ Text.quoted name

/-- Reads the names of folders. -/
def readDirNames (v : Value) : Reading (List String) :=
  Reading.check badDirName v (list text v)

/-- Reads a mode by its name. -/
def readMode : Value → Reading ScanMode :=
  oneOf (ScanMode.all.map fun mode => (mode.name, mode)) .notLiteral

/-- The name of a settings record. -/
def title : String := "MakeGraphConfig"

/-- The names of the parts, in order. -/
def parts : List Part :=
  [{ key := "targetName", name := "target_name" },
    { key := "dependencyCompiler", name := "dependency_compiler" },
    { key := "maxFilesPerProject", name := "max_files_per_project" },
    { key := "excludeDirs", name := "exclude_dirs" },
    { key := "groupingDirs", name := "grouping_dirs" },
    { key := "maxWorkers", name := "max_workers" },
    { key := "compilerTimeout", name := "compiler_timeout" }]

/-- Reads a settings record. -/
def read : Value → Reading Settings :=
  record title fun es =>
    let start : Settings := {}
    let taskPrefix := withDefault es { key := "targetName", name := "target_name" }
      start.taskPrefix (nullable readPrefix)
    let mode := withDefault es { key := "dependencyCompiler", name := "dependency_compiler" }
      start.mode readMode
    let maxFiles := withDefault es { key := "maxFilesPerProject", name := "max_files_per_project" }
      start.maxFiles (nullable (intBetween 1 none))
    let excludeDirs := withDefault es { key := "excludeDirs", name := "exclude_dirs" }
      start.excludeDirs readDirNames
    let groupingDirs := withDefault es { key := "groupingDirs", name := "grouping_dirs" }
      start.groupingDirs readDirNames
    let maxWorkers := withDefault es { key := "maxWorkers", name := "max_workers" }
      start.maxWorkers (intBetween 1 (some 64))
    let compilerTimeout := withDefault es { key := "compilerTimeout", name := "compiler_timeout" }
      start.compilerTimeout (floatBetween 1 600)
    (fun p m f e g w t _ => Settings.mk p m f e g w t) <$> taskPrefix <*> mode <*> maxFiles <*>
      excludeDirs <*> groupingDirs <*> maxWorkers <*> compilerTimeout <*> noOtherKeys es parts

/-- The values of the parts, in order. -/
def values (s : Settings) : List Value :=
  [(s.taskPrefix.map Value.text).getD .null, .text s.mode.name,
    (s.maxFiles.map fun n => Value.int n).getD .null, .list (s.excludeDirs.map .text),
    .list (s.groupingDirs.map .text), .int s.maxWorkers, .float s.compilerTimeout]

/-- The settings record, with one of the names of every part. -/
def recordBy (s : Settings) (nameOf : Part → String) : Table Value :=
  (parts.map nameOf).zip s.values

/-- Why settings cannot be changed. -/
inductive OverrideError where
  /-- A part has the name under which the settings themselves are handed over. -/
  | reserved
  | invalid (e : Invalid)

/-- The name under which the settings themselves are handed over. -/
def ownName : String := "self"

/-- What is said when settings cannot be changed, with a note on each cause of a fault. -/
def OverrideError.message (note : Record.Cause → String) : OverrideError → String
  | .reserved =>
    title ++ ".with_overrides() got multiple values for argument " ++ Text.quoted ownName
  | .invalid e => e.message note

/-- Settings with some parts set anew; a part set to nothing stays as it is. -/
def override (s : Settings) (changes : Table Value) : Except OverrideError Settings :=
  let given := changes.filter fun change =>
    match change.2 with
    | .null => false
    | _ => true
  if changes.has ownName then .error .reserved
  else if given.isEmpty then .ok s
  else (parse title read (.table ((s.recordBy Part.name).putAll given))).mapError .invalid

end Settings

end MakeAtlas
