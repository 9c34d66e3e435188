import MakeAtlas.Proofs.Text.Encoded
import MakeAtlas.Proofs.Value.DocumentStart
import MakeAtlas.Proofs.Workspace.ShortPaths
import MakeAtlas.Settings.Source

/-!
# Where the language of settings is told from

The ending of a file's name may tell the language of its text. Otherwise the text is taken for JSON
if it starts with a bracket, as a document in TOML does that starts with the header of a section.
Every other document in TOML is read alike wherever it comes from.

## Key results

- `ofText_of_holds`: the settings in a file
- `ofText_of_no_file`: the settings in a text
- `ofDocument_json_of_header`: what becomes of a section's header in JSON
- `same_settings_unless_header`: when a text and the files that hold it agree
-/

namespace MakeAtlas

open MakeAtlas.Text

/-- There is a file at a path whose contents are a text. -/
def Disk.Holds (disk : Disk) (folder path text : String) : Prop :=
  disk.contentsOf folder (Path.plain path) = .ok (Utf8.encode text)

/-- Whether a text, behind its blanks, starts with a square bracket. -/
def Toml.startsWithHeader (text : String) : Bool :=
  (trimLeft text.toList).head? == some '['

namespace Settings

/-! ## Files and texts -/

section

variable {disk : Disk} {folder path text : String}

/-- The settings in a file are those in its text, in the language that its name tells, or else the
    text. Every newline of the text becomes a line feed. -/
theorem ofText_eq_of_holds (h : disk.Holds folder path text) :
    ofText disk folder path =
      ofDocument ((formatOfPath? (Path.plain path)).getD
        (formatOfText (unifyNewlines text.toList))) (unifyNewlines text.toList) := by
  have hfile : disk.isFile folder (Path.plain path) = .ok true := by
    unfold Disk.Holds Disk.contentsOf at h
    unfold Disk.isFile
    split at h
    · next hfind =>
      rw [hfind]
      rfl
    · cases h
    · cases h
  have hcontents : disk.contentsOf folder (Path.plain path) = .ok (Utf8.encode text) := h
  have hdocument : documentInFile disk folder (Path.plain path) =
      .ok ⟨(formatOfPath? (Path.plain path)).getD (formatOfText (unifyNewlines text.toList)),
        unifyNewlines text.toList⟩ := by
    simp only [documentInFile, hcontents, Except.mapError, bind, Except.bind, Utf8.decode_encode]
  rw [ofText_of_document ((documentOfText_of_isFile hfile).trans hdocument)]

/-- The settings in a file whose newlines are line feeds. -/
theorem ofText_of_holds (h : disk.Holds folder path text) (noReturns : '\r' ∉ text.toList) :
    ofText disk folder path =
      ofDocument ((formatOfPath? (Path.plain path)).getD (formatOfText text.toList))
        text.toList := by
  rw [ofText_eq_of_holds h, unifyNewlines_eq_self noReturns]

/-- The settings in a text that is not the path of a file. -/
theorem ofText_of_no_file (here : disk.isFolder folder "." = .ok true)
    (short : text.utf8ByteSize ≤ Disk.maxNameBytes)
    (noFile : disk.isFile folder (Path.plain text) ≠ .ok true) :
    ofText disk folder text = ofDocument (formatOfText text.toList) text.toList := by
  have hfile : disk.isFile folder (Path.plain text) = .ok false := by
    obtain ⟨answer, hanswer⟩ := Disk.exists_isFile_eq_ok here short
    cases answer with
    | false => exact hanswer
    | true => exact absurd hanswer noFile
  exact ofText_of_document (documentOfText_of_not_isFile hfile)

end

/-! ## Documents in TOML -/

section Document

variable {text : String} {es : Table Value}

private theorem exists_of_startsWithHeader (h : Toml.startsWithHeader text = true) :
    ∃ rest, trimLeft text.toList = '[' :: rest := by
  rw [Toml.startsWithHeader, beq_iff_eq] at h
  exact List.head?_eq_some_iff.1 h

/-- Behind its blanks, a document in TOML without carriage returns starts as a statement does. -/
private theorem start_of_read (document : Toml.read text = .ok (.table es))
    (noReturns : '\r' ∉ text.toList) :
    trimLeft text.toList = text.toList.dropWhile Toml.isGapBlank ∧
      ∀ c ∈ (trimLeft text.toList).head?, Toml.startsStatement c = true := by
  rw [Toml.read, Toml.dropReturns_eq_self noReturns] at document
  rw [Toml.trimLeft_eq_of_readFrom document]
  exact ⟨rfl, Toml.startsStatement_of_readFrom document⟩

/-- A document in TOML is taken for JSON exactly if it starts with the header of a section. -/
theorem formatOfText_eq (document : Toml.read text = .ok (.table es))
    (noReturns : '\r' ∉ text.toList) :
    formatOfText text.toList = if Toml.startsWithHeader text then .json else .toml := by
  obtain ⟨-, hstart⟩ := start_of_read document noReturns
  unfold formatOfText Toml.startsWithHeader
  split
  · -- no statement starts with a brace
    next htrim =>
    rw [htrim] at hstart
    exact absurd (hstart _ rfl) (by decide)
  · next htrim =>
    rw [htrim]
    rfl
  · next _ hbracket =>
    rw [if_neg]
    intro hheader
    obtain ⟨rest, hrest⟩ := exists_of_startsWithHeader hheader
    exact hbracket rest hrest

/-- A document in TOML that starts with the header of a section gives no settings in JSON, but not
    because of what it would set. -/
theorem ofDocument_json_of_header (document : Toml.read text = .ok (.table es))
    (noReturns : '\r' ∉ text.toList) (header : Toml.startsWithHeader text = true) :
    ∃ e, ofDocument .json text.toList = .error e ∧ ∀ i, e ≠ .invalid i := by
  obtain ⟨hblank, -⟩ := start_of_read document noReturns
  obtain ⟨rest, hrest⟩ := exists_of_startsWithHeader header
  have hjson : text.toList.dropWhile Json.isSeparator = '[' :: rest := by
    rw [dropWhile_eq_of_head? (p := Toml.isGapBlank), ← hblank, hrest]
    · intro c hc
      simp only [Toml.isGapBlank, isInlineBlank, Bool.or_eq_true, beq_iff_eq] at hc
      rcases hc with rfl | rfl | rfl <;> decide
    · rw [← hblank, hrest]
      rintro _ ⟨⟩
      decide
  have hne := Json.read_ne_table hjson
  rw [ofDocument, String.ofList_toList]
  cases hread : Json.read text with
  | error e =>
    cases e with
    | malformed => exact ⟨_, rfl, by rintro i ⟨⟩⟩
    | tooManyDigits count => exact ⟨_, rfl, by rintro i ⟨⟩⟩
  | ok v =>
    cases v with
    | table es => exact absurd hread (hne es)
    | _ => exact ⟨_, rfl, by rintro i ⟨⟩⟩

end Document

/-- A table gives settings, or it is said what is wrong with it. -/
theorem ofTable_cases (es : Table Value) :
    (∃ s, ofTable es = .ok s) ∨ ∃ i, ofTable es = .error (.invalid i) := by
  suffices ∀ found : Except Record.Invalid Settings,
      (∃ s, found.mapError LoadError.invalid = .ok s) ∨
        ∃ i, found.mapError LoadError.invalid = .error (.invalid i) from this _
  intro found
  cases found with
  | ok s => exact Or.inl ⟨s, rfl⟩
  | error i => exact Or.inr ⟨i, rfl⟩

/-- A document in TOML that can stand in place of a path and is the path of no file. A file of a
    name that tells nothing gives the settings that the text itself gives. A file whose name tells
    the language gives those of the document, or says what is wrong with them; the text gives the
    same unless it starts with the header of a section. Then it is taken for JSON, and gives
    nothing. -/
theorem same_settings_unless_header {disk : Disk} {folder text named other : String} {v : Value}
    (document : Toml.read text = .ok v) (noReturns : '\r' ∉ text.toList)
    (short : text.utf8ByteSize ≤ Disk.maxNameBytes) (here : disk.isFolder folder "." = .ok true)
    (noFile : disk.isFile folder (Path.plain text) ≠ .ok true)
    (held : disk.Holds folder named text) (told : formatOfPath? (Path.plain named) = some .toml)
    (held' : disk.Holds folder other text) (untold : formatOfPath? (Path.plain other) = none) :
    ofText disk folder other = ofText disk folder text ∧
      (∃ es, v = .table es ∧ ofText disk folder named = ofTable es) ∧
      (ofText disk folder text = ofText disk folder named ↔ ¬ Toml.startsWithHeader text) ∧
      (Toml.startsWithHeader text →
        ∃ e, ofText disk folder text = .error e ∧ ∀ i, e ≠ .invalid i) := by
  obtain ⟨es, rfl⟩ := Toml.exists_table_of_readFrom document
  have hnamed : ofText disk folder named = ofTable es := by
    rw [ofText_of_holds held noReturns, told, Option.getD_some, ofDocument, String.ofList_toList,
      document]
  have htext := ofText_of_no_file here short noFile
  have hformat := formatOfText_eq document noReturns
  refine ⟨?_, ⟨es, rfl, hnamed⟩, ?_, ?_⟩
  · rw [ofText_of_holds held' noReturns, untold, Option.getD_none, htext]
  · rw [htext, hnamed, hformat]
    constructor
    · intro hsame header
      obtain ⟨e, he, hinvalid⟩ := ofDocument_json_of_header document noReturns header
      rw [if_pos header, he] at hsame
      rcases ofTable_cases es with ⟨s, hs⟩ | ⟨i, hi⟩
      · rw [hs] at hsame
        cases hsame
      · rw [hi] at hsame
        exact hinvalid i (Except.error.inj hsame)
    · intro header
      rw [if_neg header, ofDocument, String.ofList_toList, document]
  · intro header
    rw [htext, hformat, if_pos header]
    exact ofDocument_json_of_header document noReturns header

/-! ## A document with a section and one without -/

/-- A folder in which two files hold a text. -/
private def heldTwice (text : String) : Disk where
  root := [("work", .folder [("atlas.toml", .file (Utf8.encode text)),
    ("atlas.cfg", .file (Utf8.encode text))])]

private def unwrapped : String := "target_name = \"x\"\n"

private def wrapped : String := "[makegraph]\ntarget_name = \"x\"\n"

/-- Reading goes on behind the line of a statement. -/
private theorem readFrom_line {draft draft' : Toml.Draft} {c : Char} {rest behind more : List Char}
    (hc : ¬ (c = '\n' || isInlineBlank c) = true)
    (hstatement : Toml.statement draft (c :: rest) = .ok (draft', behind))
    (hmore : Toml.afterLine? behind = some more) (hless : more.length ≤ rest.length) :
    Toml.readFrom draft (c :: rest) = Toml.readFrom draft' more := by
  rw [Toml.readFrom, if_neg hc, hstatement]
  dsimp only
  rw [hmore]
  exact if_pos hless

/-- What stands in both documents. -/
private theorem statement_unwrapped {draft : Toml.Draft} {entries : Toml.Entries}
    (h : Toml.change (Toml.assign draft.headers (.text "x") "target_name" []) draft.path
      draft.entries = some entries) :
    Toml.statement draft unwrapped.toList = .ok ({ draft with entries }, ['\n']) := by
  have hkey : Toml.key? unwrapped.toList =
      some ("target_name", [], ['=', ' ', '"', 'x', '"', '\n']) := by
    rw [Toml.key?]
    decide +kernel
  have hvalue : Toml.value [] ['"', 'x', '"', '\n'] = .ok (.text "x", ['\n']) := by cbv
  show Toml.entry draft unwrapped.toList = _
  rw [Toml.entry, hkey]
  show (Toml.value [] ['"', 'x', '"', '\n'] >>= _) = _
  rw [hvalue]
  simp only [bind, Except.bind, h]

private theorem read_unwrapped :
    Toml.read unwrapped = .ok (.table [("target_name", .text "x")]) := by
  have hchars : Toml.dropReturns unwrapped.toList = unwrapped.toList := by decide
  have hentry : Toml.statement {} unwrapped.toList =
      .ok (⟨[("target_name", .value (.text "x"))], [], 0⟩, ['\n']) :=
    statement_unwrapped rfl
  rw [Toml.read, hchars]
  refine (readFrom_line (by decide) hentry (rfl : _ = some []) (Nat.zero_le _)).trans ?_
  rw [Toml.readFrom]
  rfl

/-- What stands behind the first bracket of the document with a section. -/
private def behindBracket : List Char :=
  "makegraph".toList ++ ']' :: '\n' :: unwrapped.toList

/-- The document up to the end of its first line. -/
private def inSection : Toml.Draft :=
  ⟨[("makegraph", .table (some 1) [])], ["makegraph"], 1⟩

private theorem statement_wrapped :
    Toml.statement {} ('[' :: behindBracket) = .ok (inSection, '\n' :: unwrapped.toList) := by
  have hkey : Toml.key? behindBracket =
      some ("makegraph", [], ']' :: '\n' :: unwrapped.toList) := by
    rw [Toml.key?]
    decide +kernel
  have hfound : Toml.header? {} behindBracket =
      some (inSection, '\n' :: unwrapped.toList) := by
    show (Toml.key? behindBracket >>= _) = _
    rw [hkey]
    rfl
  rw [Toml.statement, hfound]

private theorem read_wrapped :
    Toml.read wrapped = .ok (.table [("makegraph", .table [("target_name", .text "x")])]) := by
  have hchars : Toml.dropReturns wrapped.toList = '[' :: behindBracket := by decide
  have hentry : Toml.statement inSection unwrapped.toList =
      .ok ({ inSection with entries := [("makegraph", .table (some 1)
        [("target_name", .value (.text "x"))])] }, ['\n']) :=
    statement_unwrapped rfl
  rw [Toml.read, hchars]
  refine (readFrom_line (by decide) statement_wrapped (rfl : _ = some unwrapped.toList)
    (by decide)).trans ?_
  refine (readFrom_line (by decide) hentry (rfl : _ = some []) (Nat.zero_le _)).trans ?_
  rw [Toml.readFrom]
  rfl

private theorem isFolder_heldTwice (text : String) :
    (heldTwice text).isFolder "/work" "." = .ok true :=
  rfl

private theorem holds_heldTwice (text : String) :
    (heldTwice text).Holds "/work" "atlas.toml" text ∧
      (heldTwice text).Holds "/work" "atlas.cfg" text :=
  ⟨rfl, rfl⟩

private theorem isFile_unwrapped :
    (heldTwice unwrapped).isFile "/work" (Path.plain unwrapped) = .ok false :=
  rfl

private theorem isFile_wrapped :
    (heldTwice wrapped).isFile "/work" (Path.plain wrapped) = .ok false :=
  rfl

/-- What the names of the two files tell. -/
private theorem formatOfPath?_heldTwice :
    formatOfPath? (Path.plain "atlas.toml") = some .toml ∧
      formatOfPath? (Path.plain "atlas.cfg") = none := by
  decide

theorem same_settings_unless_header_unwrapped :
    ofText (heldTwice unwrapped) "/work" unwrapped =
        ofText (heldTwice unwrapped) "/work" "atlas.toml" ∧
      ofText (heldTwice unwrapped) "/work" "atlas.cfg" =
        ofText (heldTwice unwrapped) "/work" unwrapped := by
  obtain ⟨hother, -, hsame, -⟩ := same_settings_unless_header read_unwrapped (by decide)
    (by decide) (isFolder_heldTwice unwrapped) (by rw [isFile_unwrapped]; nofun)
    (holds_heldTwice unwrapped).1 formatOfPath?_heldTwice.1 (holds_heldTwice unwrapped).2
    formatOfPath?_heldTwice.2
  exact ⟨hsame.2 (by decide), hother⟩

/-- The same settings in a section are found in a file whose name tells its language, and nowhere
    else. -/
theorem section_found_only_where_told :
    Toml.read wrapped = .ok (.table [("makegraph", .table [("target_name", .text "x")])]) ∧
      '\r' ∉ wrapped.toList ∧ wrapped.utf8ByteSize ≤ Disk.maxNameBytes ∧
      (heldTwice wrapped).isFile "/work" (Path.plain wrapped) = .ok false ∧
      ofText (heldTwice wrapped) "/work" "atlas.toml" = .ok { taskPrefix := some "x" } ∧
      (∃ e, ofText (heldTwice wrapped) "/work" "atlas.cfg" = .error e ∧ ∀ i, e ≠ .invalid i) ∧
      ∃ e, ofText (heldTwice wrapped) "/work" wrapped = .error e ∧ ∀ i, e ≠ .invalid i := by
  have hreturns : '\r' ∉ wrapped.toList := by decide
  have hformat : formatOfText wrapped.toList = .json := by decide
  have hnothing := ofDocument_json_of_header read_wrapped hreturns (by decide)
  refine ⟨read_wrapped, hreturns, by decide, isFile_wrapped, ?_, ?_, ?_⟩
  · rw [ofText_of_holds (holds_heldTwice wrapped).1 hreturns, formatOfPath?_heldTwice.1,
      Option.getD_some, ofDocument, String.ofList_toList, read_wrapped]
    rfl
  · rw [ofText_of_holds (holds_heldTwice wrapped).2 hreturns, formatOfPath?_heldTwice.2,
      Option.getD_none, hformat]
    exact hnothing
  · rw [ofText_of_no_file (isFolder_heldTwice wrapped) (by decide)
      (by rw [isFile_wrapped]; nofun), hformat]
    exact hnothing

end Settings

end MakeAtlas
