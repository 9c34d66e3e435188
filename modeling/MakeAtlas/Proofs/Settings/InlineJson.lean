import MakeAtlas.Proofs.Settings.Formats
import MakeAtlas.Proofs.Value.JsonText

/-!
# Settings in a text in JSON

A table may be handed over as it is, as a text in JSON or in a file that holds the text. All three
give the same settings, unless the text cannot be asked for as a path: before it is read, it is
looked for as a file, and it is an error to look for a name that is too long.

## Key results

- `formatOfText_of_table`: a text of a table in JSON is taken for JSON
- `same_settings_unless_too_long`: when the three agree
- `long_text_not_read`: a table with nothing in it that is not read
-/

namespace MakeAtlas.Settings

open MakeAtlas.Text

variable {disk : Disk} {folder path text named : String} {es : Table Value}

/-- A text of a table in JSON is taken for JSON. -/
theorem formatOfText_of_table (document : Json.read text = .ok (.table es)) :
    formatOfText text.toList = .json := by
  obtain ⟨rest, hrest⟩ := Json.exists_brace_of_read document
  have htrim : trimLeft text.toList = '\x7b' :: rest := by
    rw [trimLeft, dropWhile_eq_of_head? (p := Json.isSeparator), hrest]
    · intro c hc
      simp only [Json.isSeparator, Bool.or_eq_true, beq_iff_eq] at hc
      rcases hc with ((rfl | rfl) | rfl) | rfl <;> decide
    · rw [hrest]
      rintro _ ⟨⟩
      decide
  rw [formatOfText, htrim]
  rfl

/-- A table, a text of it in JSON that is the path of no file, and a file for JSON that holds the
    text. The file gives the settings that the table gives, or the same is said to be wrong with
    them. So does the text, however long it is, unless it is too long to be asked for as a path.
    Then it is not read, and the error is that of the path. -/
theorem same_settings_unless_too_long (document : Json.read text = .ok (.table es))
    (noFile : disk.isFile folder (Path.plain text) ≠ .ok true)
    (held : disk.Holds folder named text) (told : formatOfPath? (Path.plain named) = some .json) :
    ofValue disk folder (.text named) = ofValue disk folder (.table es) ∧
      (ofValue disk folder (.text text) = ofValue disk folder (.table es) ↔
        ¬ disk.IsTooLong folder (Path.plain text)) ∧
      (disk.IsTooLong folder (Path.plain text) →
        ofValue disk folder (.text text) = .error (.file ⟨.nameTooLong, Path.plain text⟩)) := by
  have hlong : disk.IsTooLong folder (Path.plain text) →
      ofValue disk folder (.text text) = .error (.file ⟨.nameTooLong, Path.plain text⟩) := by
    intro hlong
    rw [ofValue, ofText, documentOfText_of_error (Disk.isFile_eq_error_iff.2 ⟨hlong, rfl⟩)]
    rfl
  refine ⟨?_, ⟨fun hsame hTooLong => ?_, fun hshort => ?_⟩, hlong⟩
  · -- text mode changes no document in JSON
    show ofText disk folder named = ofTable es
    rw [ofText_eq_of_holds held, told, Option.getD_some, ofDocument, Json.read_unifyNewlines,
      document]
  · -- nothing is said about a path when a table is read
    rw [hlong hTooLong] at hsame
    rcases ofTable_cases es with ⟨s, hs⟩ | ⟨i, hi⟩
    · rw [ofValue, hs] at hsame
      cases hsame
    · rw [ofValue, hi] at hsame
      cases hsame
  · have hfile : disk.isFile folder (Path.plain text) = .ok false := by
      cases hanswer : disk.isFile folder (Path.plain text) with
      | ok answer =>
        cases answer with
        | false => rfl
        | true => exact absurd hanswer noFile
      | error e => exact absurd (Disk.isFile_eq_error_iff.1 hanswer).1 hshort
    show ofText disk folder text = ofTable es
    rw [ofText_of_document (documentOfText_of_not_isFile hfile), formatOfText_of_table document,
      ofDocument, String.ofList_toList, document]

/-- A folder in which a file for JSON holds a text. -/
private def heldAs (text : String) : Disk where
  root := [("work", .folder [("atlas.json", .file (Utf8.encode text))])]

/-- A table on two lines. -/
private def twoLines : String := "\x7b\r\n\"target_name\": \"x\"\x7d"

theorem same_settings_unless_too_long_twoLines :
    ofValue (heldAs twoLines) "/work" (.text twoLines) =
        ofValue (heldAs twoLines) "/work" (.table [("target_name", .text "x")]) ∧
      ofValue (heldAs twoLines) "/work" (.text "atlas.json") =
        ofValue (heldAs twoLines) "/work" (.table [("target_name", .text "x")]) := by
  have document : Json.read twoLines = .ok (.table [("target_name", .text "x")]) := by cbv
  have hfile : (heldAs twoLines).isFile "/work" (Path.plain twoLines) = .ok false := rfl
  obtain ⟨hnamed, htext, -⟩ := same_settings_unless_too_long document (by simp [hfile])
    (rfl : (heldAs twoLines).Holds "/work" "atlas.json" twoLines) (by decide)
  exact ⟨htext.2 (Disk.not_isTooLong_plain rfl (by decide)), hnamed⟩

/-- A table with nothing in it, whose braces are further apart than a name may be long. -/
private def farBraces : List Char := '\x7b' :: (List.replicate 255 ' ' ++ ['\x7d'])

/-- A text of a table that is the path of no file need not be read as the table. -/
theorem long_text_not_read :
    Json.read (String.ofList farBraces) = .ok (.table []) ∧
      (heldAs (String.ofList farBraces)).isFile "/work" (Path.plain (String.ofList farBraces)) ≠
        .ok true ∧
      ofValue (heldAs (String.ofList farBraces)) "/work" (.table []) = .ok {} ∧
      ofValue (heldAs (String.ofList farBraces)) "/work" (.text "atlas.json") = .ok {} ∧
      ofValue (heldAs (String.ofList farBraces)) "/work" (.text (String.ofList farBraces)) =
        .error (.file ⟨.nameTooLong, Path.plain (String.ofList farBraces)⟩) := by
  have document : Json.read (String.ofList farBraces) = .ok (.table []) :=
    Json.read_braces fun c hc => by rw [List.eq_of_mem_replicate hc]; decide
  have hstep : Path.IsStep farBraces := ⟨by decide, by decide, by decide +kernel⟩
  have hlong : (heldAs (String.ofList farBraces)).IsTooLong "/work"
      (Path.plain (String.ofList farBraces)) :=
    Disk.isTooLong_of_isStep rfl hstep (by decide +kernel) (by decide +kernel)
  have hfile := Disk.isFile_eq_error_iff.2 ⟨hlong, rfl⟩
  have held : (heldAs (String.ofList farBraces)).Holds "/work" "atlas.json"
      (String.ofList farBraces) := rfl
  refine ⟨document, by simp [hfile], rfl, ?_, ?_⟩
  · show ofText _ _ _ = _
    rw [ofText_eq_of_holds held]
    show ofDocument .json _ = _
    rw [ofDocument, Json.read_unifyNewlines, document]
    rfl
  · rw [ofValue, ofText, documentOfText_of_error hfile]
    rfl

end MakeAtlas.Settings
