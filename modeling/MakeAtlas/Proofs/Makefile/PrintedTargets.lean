import MakeAtlas.Proofs.Makefile.Prerequisites
import MakeAtlas.Proofs.Makefile.Targets

/-!
# Printed Makefiles

A Makefile that is printed line by line, with target lines between recipes, comments and
assignments, is read back as the targets that were printed.

## Key results

- `prerequisites_spaced`: printed prerequisites are read back
- `definition?_chars`: what a printed line defines
- `targets_text`: a printed Makefile has the targets that were printed
- `targets_laws`: what is read of any Makefile, of two in one, and of a printed one
-/

namespace MakeAtlas.Makefile

open MakeAtlas.Text

/-! ## How a Makefile is printed -/

/-- A text that stays on its line. -/
structure InLine where
  chars : List Char
  inLine : ∀ c ∈ chars, isTerminator c = false

/-- The name of a target that is not internal. -/
structure TargetName where
  chars : List Char
  ne_nil : chars ≠ []
  nameChars : ∀ c ∈ chars, c.isAlphanum = true ∨ c = '_' ∨ c = '-'
  shown : chars.head? ≠ some '_'

/-- A word that stays a prerequisite: nothing in it ends the listing, refers to a variable, or
begins an absolute path, a shell fragment or a quotation. -/
structure Prerequisite where
  chars : List Char
  ne_nil : chars ≠ []
  noBlank : ∀ c ∈ chars, isBlank c = false
  listed : '#' ∉ chars ∧ ';' ∉ chars
  resolved : '$' ∉ chars
  noBar : chars ≠ ['|']
  start : ∀ c ∈ chars.head?, c ≠ '/' ∧ c ≠ '@' ∧ c ≠ '"'

/-- The name of a variable. -/
structure VariableName extends InLine where
  noColon : ':' ∉ chars

/-- The sign of an assignment. -/
inductive Sign where
  | atOnce
  | recursive
  deriving DecidableEq, Repr

def Sign.chars : Sign → List Char
  | atOnce => [':', '=']
  | recursive => [' ', '=', ' ']

/-- The lines of a printed Makefile. -/
inductive Line where
  | target (name : TargetName) (prerequisites : List Prerequisite)
  | recipe (command : InLine)
  | comment (remark : InLine)
  | assignment (name : VariableName) (sign : Sign) (value : InLine)

namespace Line

def chars : Line → List Char
  | target name prerequisites =>
    name.chars ++ ':' :: ' ' :: [' '].intercalate (prerequisites.map Prerequisite.chars)
  | recipe command => '\t' :: command.chars
  | comment remark => '#' :: remark.chars
  | assignment name sign value => name.chars ++ (sign.chars ++ value.chars)

/-- The target that a line defines, with its prerequisites. -/
def definition? : Line → Option (String × List String)
  | target name prerequisites =>
    some (.ofList name.chars, prerequisites.map fun p => .ofList p.chars)
  | _ => none

end Line

/-- A printed Makefile, in which every target stands once. -/
structure Printed where
  lines : List Line
  once : (Table.keys (lines.filterMap Line.definition?)).Nodup

def Printed.text (p : Printed) : String :=
  .ofList (p.lines.flatMap fun line => line.chars ++ ['\n'])

/-- The targets that were printed, in order. -/
def Printed.entries (p : Printed) : Table (List String) :=
  p.lines.filterMap Line.definition?

/-! ## What a printed line defines -/

theorem isTerminator_of_isNameChar {c : Char} (h : isNameChar c = true) :
    isTerminator c = false := by
  rw [Bool.eq_false_iff]
  intro hends
  exact absurd (isBlank_of_isTerminator hends) (by simp [isBlank_eq_false_of_isNameChar h])

/-- A character between words is the space. -/
private theorem mem_intercalate_space {ws : List (List Char)} {c : Char}
    (h : c ∈ [' '].intercalate ws) : c = ' ' ∨ ∃ w ∈ ws, c ∈ w := by
  induction ws with
  | nil => cases h
  | cons w ws ih =>
    cases ws with
    | nil =>
      rw [List.intercalate_singleton] at h
      exact Or.inr ⟨w, List.mem_cons_self, h⟩
    | cons next ws =>
      rw [List.intercalate_cons_cons, List.mem_append, List.mem_append, List.mem_singleton] at h
      rcases h with (hw | hspace) | hrest
      · exact Or.inr ⟨w, List.mem_cons_self, hw⟩
      · exact Or.inl hspace
      · refine (ih hrest).imp_right ?_
        rintro ⟨v, hv, hc⟩
        exact ⟨v, List.mem_cons_of_mem _ hv, hc⟩

/-- The prerequisites of a printed target are read back. -/
theorem prerequisites_spaced (ps : List Prerequisite) :
    prerequisites (' ' :: [' '].intercalate (ps.map Prerequisite.chars)) =
      ps.map fun p => String.ofList p.chars := by
  have hwords : HasWords (' ' :: [' '].intercalate (ps.map Prerequisite.chars))
      (ps.map Prerequisite.chars) :=
    .blank rfl (hasWords_intercalate (List.forall_mem_map.2 fun p _ => ⟨p.ne_nil, p.noBlank⟩))
  have hread := prerequisites_of_hasWords hwords (List.forall_mem_map.2 fun p _ => p.listed)
    (List.forall_mem_map.2 fun p _ => ⟨p.noBar, p.resolved, p.start⟩)
  rw [hread, List.map_map]
  rfl

/-- A line whose first character that belongs to no name is no colon defines nothing. -/
theorem definition?_eq_none {line : List Char}
    (h : (line.dropWhile isNameChar).head? ≠ some ':') : definition? line = none := by
  rw [Option.eq_none_iff_forall_ne_some]
  rintro ⟨name, found⟩ hentry
  obtain ⟨rest, hdefines, -⟩ := definition?_eq_some_iff.1 hentry
  refine h ?_
  rw [hdefines.split, dropWhile_name fun c hc => isNameChar_iff.2 (hdefines.nameChars c hc)]
  rfl

/-- An assignment defines no target: a name of its line that ends in a colon would be the
variable's, and an equals sign follows that one's colon. -/
theorem not_defines_assignment (name : VariableName) (sign : Sign) (value : InLine)
    (target : String) (rest : List Char) :
    ¬ Defines (Line.assignment name sign value).chars target rest := by
  intro h
  rcases append_eq_append_cons h.split with ⟨more, htarget, hsign⟩ | ⟨more, hname, -⟩
  · cases more with
    | nil =>
      cases sign with
      | atOnce =>
        cases hsign
        exact h.notSet ⟨value.chars, rfl⟩
      | recursive => cases hsign
    | cons c more =>
      -- the target's name would go on with the sign
      have hc : isNameChar c = true := isNameChar_iff.2 (h.nameChars c (by simp [htarget]))
      have hsame : some c = (sign.chars ++ value.chars).head? := by
        rw [hsign]
        rfl
      cases sign <;> cases hsame <;> exact absurd hc (by decide)
  · exact name.noColon (by simp [hname])

theorem definition?_chars (line : Line) : definition? line.chars = line.definition? := by
  cases line with
  | target name ps =>
    refine definition?_eq_some_iff.2 ⟨' ' :: [' '].intercalate (ps.map Prerequisite.chars), ?_, ?_⟩
    · exact {
        split := by rw [String.toList_ofList]; rfl
        name_ne := by rw [String.toList_ofList]; exact name.ne_nil
        nameChars := by rw [String.toList_ofList]; exact name.nameChars
        shown := by rw [String.toList_ofList]; exact name.shown
        notSet := by simp
        notSetOnce := by simp
        notSetAtOnce := by simp }
    · exact (prerequisites_spaced ps).symm
  | recipe command => exact definition?_eq_none (by simp [Line.chars, isNameChar])
  | comment remark => exact definition?_eq_none (by simp [Line.chars, isNameChar])
  | assignment name sign value =>
    refine Option.eq_none_iff_forall_ne_some.2 ?_
    rintro ⟨target, found⟩ hentry
    obtain ⟨rest, hdefines, -⟩ := definition?_eq_some_iff.1 hentry
    exact not_defines_assignment name sign value target rest hdefines

theorem Line.isTerminator_of_mem {line : Line} {c : Char} (h : c ∈ line.chars) :
    isTerminator c = false := by
  cases line with
  | target name ps =>
    rcases List.mem_append.1 h with h | h
    · exact isTerminator_of_isNameChar (isNameChar_iff.2 (name.nameChars c h))
    · rcases List.mem_cons.1 h with rfl | h
      · rfl
      · rcases List.mem_cons.1 h with rfl | h
        · rfl
        · rcases mem_intercalate_space h with rfl | ⟨w, hw, hc⟩
          · rfl
          · obtain ⟨p, -, rfl⟩ := List.mem_map.1 hw
            rw [Bool.eq_false_iff]
            intro hends
            exact absurd (isBlank_of_isTerminator hends) (by simp [p.noBlank c hc])
  | recipe command =>
    rcases List.mem_cons.1 h with rfl | h
    · rfl
    · exact command.inLine c h
  | comment remark =>
    rcases List.mem_cons.1 h with rfl | h
    · rfl
    · exact remark.inLine c h
  | assignment name sign value =>
    have hsign : ∀ c ∈ sign.chars, isTerminator c = false := by
      cases sign <;> simp [Sign.chars, isTerminator]
    rcases List.mem_append.1 h with h | h
    · exact name.inLine c h
    · rcases List.mem_append.1 h with h | h
      · exact hsign c h
      · exact value.inLine c h

theorem Printed.lines_text (p : Printed) :
    Text.lines p.text.toList = p.lines.map Line.chars := by
  rw [Printed.text, String.toList_ofList]
  induction p.lines with
  | nil => rfl
  | cons line ls ih =>
    rw [List.flatMap_cons, List.append_assoc, List.singleton_append,
      lines_of_line fun c hc => Line.isTerminator_of_mem hc, ih, List.map_cons]

/-- A printed Makefile has the targets that were printed. -/
theorem targets_text (p : Printed) : targets p.text = p.entries := by
  have hentries : (p.lines.map Line.chars).filterMap definition? = p.entries := by
    rw [List.filterMap_map]
    exact List.filterMap_congr fun line _ => definition?_chars line
  rw [targets_eq, p.lines_text, hentries]
  exact Table.ofList_eq_self p.once

/-- Of every Makefile the targets are read that its lines define; those of two texts, one behind the
other, are those of the first updated by those of the second; and a printed Makefile is read back
as it was printed. -/
theorem targets_laws :
    (∀ text, ListsTargets text (targets text)) ∧
      (∀ first second,
        targets (first ++ "\n" ++ second) = (targets first).putAll (targets second)) ∧
      ∀ p : Printed, targets p.text = p.entries :=
  ⟨listsTargets_targets, targets_append, targets_text⟩

end MakeAtlas.Makefile
