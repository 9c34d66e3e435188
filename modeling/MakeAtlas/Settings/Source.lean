import MakeAtlas.Settings.Basic
import MakeAtlas.Value.Json.Reader
import MakeAtlas.Value.Toml.Reader
import MakeAtlas.Workspace.Disk

/-!
# Where settings come from

Settings are given as a table, as the text of a document or as the path of a file, or else they are
taken from a file of the workspace. Documents are in TOML or JSON; a file's ending tells which, and
elsewhere a text that begins with a bracket is JSON. All settings may be wrapped in one table of
their own.
-/

namespace MakeAtlas.Settings

open MakeAtlas.Text

/-- The language of a document. -/
inductive Format where
  | toml
  | json
  deriving DecidableEq, Repr

/-- Why there are no settings. -/
inductive LoadError where
  | unsupported (value : Value)
  | file (e : FileError)
  | notText (fault : Utf8.Fault)
  | malformed (format : Format)
  | tooManyDigits (count : Nat)
  | notTable
  | invalid (e : Record.Invalid)

/-- What is said when there are no settings, with a note on each cause of a fault. -/
def LoadError.message (note : Record.Cause → String) : LoadError → String
  | .unsupported value =>
    "Unsupported config source type: <class '" ++ Record.Fault.typeName value ++ "'>"
  | .file e => e.message
  | .notText fault => fault.message
  | .malformed .toml => "Cannot parse toml configuration"
  | .malformed .json => "Cannot parse json configuration"
  | .tooManyDigits count => DocumentError.tooManyDigitsMessage count
  | .notTable => "Top-level configuration must be a mapping/dict"
  | .invalid e => e.message note

/-- The table that settings may be wrapped in. -/
def wrapper : String := "makegraph"

/-- The settings in a table. -/
def ofTable (entries : Table Value) : Except LoadError Settings :=
  let settings : Value :=
    match entries with
    | [(key, .table inner)] => if key = wrapper then .table inner else .table entries
    | _ => .table entries
  (Record.parse title read settings).mapError .invalid

/-- The language of a document without a telling file name. -/
def formatOfText (cs : List Char) : Format :=
  match trimLeft cs with
  | '\x7b' :: _ => .json
  | '[' :: _ => .json
  | _ => .toml

/-- The ending of a file's name, with its point. A point at either end of the name begins none. -/
def ending (name : List Char) : List Char :=
  let tail := (name.reverse.takeWhile (· != '.')).reverse
  if tail.isEmpty || name.length ≤ tail.length + 1 then [] else '.' :: tail

/-- The language that a file's ending tells. -/
def formatOfPath? (path : String) : Option Format :=
  match String.ofList ((ending (Path.lastPart path.toList)).map Char.toLower) with
  | ".toml" => some .toml
  | ".tml" => some .toml
  | ".json" => some .json
  | _ => none

/-- The settings in the text of a document. -/
def ofDocument (format : Format) (text : List Char) : Except LoadError Settings :=
  let document :=
    match format with
    | .toml => Toml.read (String.ofList text)
    | .json => Json.read (String.ofList text)
  match document with
  | .error .malformed => .error (.malformed format)
  | .error (.tooManyDigits count) => .error (.tooManyDigits count)
  | .ok (.table entries) => ofTable entries
  | .ok _ => .error .notTable

/-- A document that settings are read from: its language and its text. -/
structure Document where
  format : Format
  text : List Char

/-- The settings in a document. -/
def Document.settings (d : Document) : Except LoadError Settings :=
  ofDocument d.format d.text

/-- The document in the file at a path. -/
def documentInFile (disk : Disk) (folder path : String) : Except LoadError Document := do
  let content ← (disk.contentsOf folder path).mapError .file
  match Utf8.decode content with
  | .error fault => .error (.notText fault)
  | .ok decoded =>
    let text := unifyNewlines decoded
    .ok ⟨(formatOfPath? path).getD (formatOfText text), text⟩

/-- The document that a text stands for: it is the path of a file or else the document itself. -/
def documentOfText (disk : Disk) (folder text : String) : Except LoadError Document := do
  if (← (disk.isFile folder (Path.plain text)).mapError .file) then
    documentInFile disk folder (Path.plain text)
  else .ok ⟨formatOfText text.toList, text.toList⟩

theorem documentOfText_of_isFile {disk : Disk} {folder text : String}
    (h : disk.isFile folder (Path.plain text) = .ok true) :
    documentOfText disk folder text = documentInFile disk folder (Path.plain text) := by
  rw [documentOfText, h]
  rfl

theorem documentOfText_of_not_isFile {disk : Disk} {folder text : String}
    (h : disk.isFile folder (Path.plain text) = .ok false) :
    documentOfText disk folder text = .ok ⟨formatOfText text.toList, text.toList⟩ := by
  rw [documentOfText, h]
  rfl

theorem documentOfText_of_error {disk : Disk} {folder text : String} {e : FileError}
    (h : disk.isFile folder (Path.plain text) = .error e) :
    documentOfText disk folder text = .error (.file e) := by
  rw [documentOfText, h]
  rfl

/-- The settings that a text stands for. -/
def ofText (disk : Disk) (folder text : String) : Except LoadError Settings := do
  (← documentOfText disk folder text).settings

theorem ofText_of_document {disk : Disk} {folder text : String} {d : Document}
    (h : documentOfText disk folder text = .ok d) :
    ofText disk folder text = ofDocument d.format d.text := by
  rw [ofText, h]
  rfl

/-- The settings files of a workspace; the first one there is counts. -/
def workspaceFiles : List String := ["makegraph.toml", "makegraph.json"]

/-- The path of a file in a folder. -/
def pathIn (folder name : String) : String :=
  String.ofList (Path.append folder.toList name.toList)

/-- The settings file of a workspace. -/
def workspaceFile? (disk : Disk) (workspace : String) : Except FileError (Option String) :=
  workspaceFiles.findM? fun name => disk.isFile workspace (pathIn workspace name)

/-- The document of a workspace, if it has one. -/
def documentOfWorkspace? (disk : Disk) (workspace : String) :
    Except LoadError (Option Document) := do
  match (← (workspaceFile? disk workspace).mapError .file) with
  | some name => (documentOfText disk workspace (pathIn workspace name)).map some
  | none => .ok none

/-- The settings of a workspace. Without a document they are the defaults. -/
def ofWorkspace (disk : Disk) (workspace : String) : Except LoadError Settings := do
  match (← documentOfWorkspace? disk workspace) with
  | some d => d.settings
  | none => .ok {}

/-- The settings that a value stands for. Nothing stands for the defaults. -/
def ofValue (disk : Disk) (folder : String) : Value → Except LoadError Settings
  | .null => .ok {}
  | .table entries => ofTable entries
  | .text s => ofText disk folder s
  | value => .error (.unsupported value)

end MakeAtlas.Settings
