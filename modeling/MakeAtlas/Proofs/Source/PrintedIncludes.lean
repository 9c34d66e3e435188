import MakeAtlas.Proofs.Source.Printed

/-!
# Includes of printed sources

What is reported for a source that is printed line by line are its directives, each with the number
of its line: no line changes what is found on another one, and nothing is found in comments and
literals.

## Key results

- `Line.includesFrom_pieces`: what is found on a line
- `includes_print`: the includes of a printed source are its directives
-/

namespace MakeAtlas.Source

open MakeAtlas.Text

namespace Directive

variable (d : Directive)

theorem isInlineBlank_of_mem_leading {c : Char} (h : c ∈ scrubbed d.leading) :
    isInlineBlank c = true := by
  obtain ⟨l, hl, hc⟩ := List.mem_flatMap.1 h
  obtain ⟨⟨blanks, body⟩, -, hl⟩ := List.mem_flatMap.1 hl
  rcases List.mem_append.1 hl with hl | hl
  · obtain ⟨e, he, rfl⟩ := List.mem_map.1 hl
    rw [List.mem_singleton.1 hc]
    exact blanks.inLine e he
  · rw [List.mem_singleton.1 hl] at hc
    rw [List.mem_singleton.1 hc]
    rfl

theorem isInclude_gap : IsInclude d.gap :=
  ⟨_, _, rfl, fun c hc => isBlank_of_isInlineBlank (d.first.inLine c hc),
    fun c hc => isBlank_of_isInlineBlank (d.second.inLine c hc)⟩

theorem scrubbed_trailing : scrubbed d.trailing = d.tail.chars := by
  rw [trailing, scrubbed_append, scrubbed_plains]
  cases d.comment <;> simp [Lexeme.scrubbed]

/-- What is left in front of the path of a directive. -/
def shownLead : List Char :=
  (scrubbed d.leading ++ d.indent.chars) ++ '#' :: (d.gap ++ [d.name.opens])

/-- What is left of the line of a directive. -/
theorem scrubbed_pieces : scrubbed (Line.directive d).pieces =
    d.shownLead ++ (d.name.path ++ d.name.closes :: (d.tail.chars ++ ['\n'])) := by
  simp [Line.pieces, Line.content, shownLead, text, HeaderName.text, scrubbed_trailing,
    Lexeme.scrubbed]

theorem lineFeed_not_mem_shownLead : '\n' ∉ d.shownLead := by
  have hline : ∀ blanks : Blanks, '\n' ∉ blanks.chars := fun blanks => blanks.not_mem (by decide)
  have hleading : '\n' ∉ scrubbed d.leading := fun h =>
    absurd (d.isInlineBlank_of_mem_leading h) (by decide)
  rcases d.name.marks with ⟨hopens, -⟩ | ⟨hopens, -⟩ <;>
    simp [shownLead, gap, hline, hleading, hopens]

theorem directiveAt?_pieces (rest : List Char) :
    directiveAt? (scrubbed (Line.directive d).pieces ++ rest) =
      some (d.shownLead, d.name.path, d.tail.chars ++ '\n' :: rest) := by
  have hindent : ∀ c ∈ scrubbed d.leading ++ d.indent.chars, isBlank c = true := by
    intro c hc
    rcases List.mem_append.1 hc with hc | hc
    · exact isBlank_of_isInlineBlank (d.isInlineBlank_of_mem_leading hc)
    · exact isBlank_of_isInlineBlank (d.indent.inLine c hc)
  have hcloses : isPathChar d.name.closes = false := by
    rcases d.name.marks with ⟨-, h⟩ | ⟨-, h⟩ <;> rw [h] <;> decide
  have hopens : d.name.opens = '<' ∨ d.name.opens = '"' := d.name.marks.imp And.left And.left
  rw [directiveAt?_eq_some_iff]
  exact ⟨_, _, _, _, by simp [scrubbed_pieces, shownLead], rfl, hindent, d.isInclude_gap, hopens,
    closedPath?_eq_some_iff.2 ⟨_, rfl, d.name.ne_nil, d.name.pathChars, hcloses⟩⟩

/-- A directive is found with the number of its line, and the search goes on behind the line. -/
theorem includesFrom_pieces (number : Nat) (rest : List Char) :
    includesFrom number true (scrubbed (Line.directive d).pieces ++ rest) =
      (d.name.path, number) ::
        includesFrom (number + (scrubbed (Line.directive d).pieces).count '\n') true rest := by
  have hlead : d.shownLead.count '\n' = 0 := List.count_eq_zero.2 d.lineFeed_not_mem_shownLead
  have hpath : d.name.path.count '\n' = 0 := List.count_eq_zero.2 d.name.inLine
  have hcloses : [d.name.closes].count '\n' = 0 := by
    rcases d.name.marks with ⟨-, h⟩ | ⟨-, h⟩ <;> rw [h] <;> decide
  have hcount : (scrubbed (Line.directive d).pieces).count '\n' =
      (d.tail.chars ++ ['\n']).count '\n' := by
    rw [scrubbed_pieces, List.count_append, List.count_append,
      count_lineFeed_cons d.name.closes _, hlead, hpath, hcloses, Nat.zero_add, Nat.zero_add,
      Nat.zero_add]
  rw [includesFrom_of_directive (d.directiveAt?_pieces rest), hlead, hpath, Nat.add_zero,
    includesFrom_of_not_mem (d.tail.not_mem (by decide)), hcount]

end Directive

@[simp] theorem joinedLines_plains (cs : List Char) : joinedLines (plains cs) = 0 := by
  induction cs with
  | nil => rfl
  | cons c cs ih => exact (joinedLines_cons _ _).trans ((Nat.zero_add _).trans ih)

theorem Literal.not_mem_body (l : Literal) : '\n' ∉ l.body := by
  intro hmem
  obtain ⟨part, -, hmem⟩ := List.mem_flatMap.1 hmem
  cases part with
  | plain c h => exact h.2.2 (List.mem_singleton.1 hmem).symm
  | escaped c h =>
    rcases List.mem_cons.1 hmem with hc | hc
    · exact absurd hc (by decide)
    · exact h (List.mem_singleton.1 hc).symm

namespace Line

/-- No literal on a line goes on over a line feed. -/
theorem joinedLines_pieces (l : Line) : joinedLines l.pieces = 0 := by
  have hcode : ∀ parts : List CodePart, joinedLines (parts.map CodePart.piece) = 0 := by
    intro parts
    induction parts with
    | nil => rfl
    | cons part parts ih =>
      cases part with
      | plain c h => simp [CodePart.piece, Lexeme.joinedLines, ih]
      | literal l =>
        simp [CodePart.piece, Lexeme.joinedLines, ih, List.count_eq_zero.2 l.not_mem_body]
  have hleading : ∀ d : Directive, joinedLines d.leading = 0 := by
    intro d
    rw [Directive.leading]
    induction d.comments with
    | nil => rfl
    | cons comment comments ih => simp [Lexeme.joinedLines, ih]
  cases l with
  | code parts => simp [pieces, content, hcode, Lexeme.joinedLines]
  | lineComment indent body => simp [pieces, content, Lexeme.joinedLines]
  | blockComment indent body tail => simp [pieces, content, Lexeme.joinedLines]
  | directive d =>
    cases hcomment : d.comment <;>
      simp [pieces, content, hleading, Directive.trailing, hcomment, Lexeme.joinedLines]

/-- A line that is no directive leaves no `#`. -/
theorem not_mem_scrubbed_content {l : Line} (h : ∀ d, l ≠ directive d) :
    '#' ∉ scrubbed l.content := by
  have hblanks : ∀ blanks : Blanks, '#' ∉ blanks.chars := fun blanks => blanks.not_mem (by decide)
  cases l with
  | code parts =>
    intro hmem
    obtain ⟨piece, hpiece, hmem⟩ := List.mem_flatMap.1 hmem
    obtain ⟨part, -, rfl⟩ := List.mem_map.1 hpiece
    cases part with
    | plain c hc =>
      rw [← List.mem_singleton.1 hmem] at hc
      exact absurd (by decide) hc
    | literal l =>
      have hquote : '#' = l.quote := by simpa [CodePart.piece, Lexeme.scrubbed] using hmem
      rcases l.isQuote with h | h <;> rw [h] at hquote <;> exact absurd hquote (by decide)
  | lineComment indent body => simp [content, hblanks, Lexeme.scrubbed]
  | blockComment indent body tail => simp [content, hblanks, Lexeme.scrubbed]
  | directive d => exact absurd rfl (h d)

/-- Scrubbing leaves the line feeds of a line. -/
theorem count_scrubbed_pieces (l : Line) :
    (scrubbed l.pieces).count '\n' = (written l.pieces).count '\n' := by
  have hsound : ∀ piece ∈ l.pieces, piece.IsSound := fun piece hpiece => by
    have hmem : piece ∈ Rules.ofScrubbing.lexemes true (written l.pieces ++ []) := by
      rw [l.lexemes_pieces]
      exact List.mem_append_left _ hpiece
    exact Rules.isSound_of_mem_lexemes hmem
  rw [← count_scrubbed hsound, l.joinedLines_pieces, Nat.add_zero]

/-- Of each line its path is found, if it names one, with the number of the line. -/
theorem includesFrom_pieces (l : Line) (number : Nat) (rest : List Char) :
    includesFrom number true (scrubbed l.pieces ++ rest) =
      (l.path?.map fun path => (path, number)).toList ++
        includesFrom (number + (written l.pieces).count '\n') true rest := by
  rw [← l.count_scrubbed_pieces]
  have hpass : (∀ d, l ≠ directive d) → includesFrom number true (scrubbed l.pieces ++ rest) =
      includesFrom (number + (scrubbed l.pieces).count '\n') true rest := by
    intro h
    have hpieces : scrubbed l.pieces = scrubbed l.content ++ ['\n'] := by
      rw [pieces, scrubbed_append]
      rfl
    rw [hpieces, List.append_assoc]
    exact includesFrom_of_not_mem (not_mem_scrubbed_content h)
  cases l with
  | directive d => exact d.includesFrom_pieces number rest
  | code parts => exact hpass (by simp)
  | lineComment indent body => exact hpass (by simp)
  | blockComment indent body tail => exact hpass (by simp)

end Line

/-- The includes of a printed source are its directives: their paths in order, each with the number
    of its line. -/
theorem includes_print (lines : List Line) : includes (print lines) = directives 1 lines := by
  rw [includes, ← Rules.scrubbed_lexemes, lexemes_print]
  generalize 1 = number
  induction lines generalizing number with
  | nil => simp [includesFrom, directives]
  | cons l lines ih =>
    rw [List.flatMap_cons, scrubbed_append, l.includesFrom_pieces, List.filterMap_append, ih,
      directives]
    congr 1
    cases l with
    | directive d =>
      -- a path that is not empty once it is trimmed is reported
      obtain ⟨c, path, hpath⟩ := List.exists_cons_of_ne_nil d.name.ne_nil
      have htrim := d.name.trim_eq
      rw [hpath] at htrim
      simp [Line.path?, hpath, htrim]
    | code parts => rfl
    | lineComment indent body => rfl
    | blockComment indent body tail => rfl

/-- A directive behind a comment. -/
private def vendored : Directive where
  comments := [(⟨[], by simp⟩, ⟨⟨['!'], by decide +kernel⟩, by decide +kernel⟩)]
  indent := ⟨[' '], by simp [isInlineBlank]⟩
  first := ⟨[], by simp⟩
  second := ⟨[' '], by simp [isInlineBlank]⟩
  name := ⟨true, ['x', '.', 'h'], by decide, by decide +kernel, by simp [isPathChar],
    by decide +kernel, by decide +kernel⟩
  tail := ⟨[], by simp⟩
  comment := none

example : (print [.blockComment ⟨[], by simp⟩ ⟨['\n', '#'], by decide +kernel⟩ ⟨[], by simp⟩,
    .directive vendored]).toList = "/*\n#*/\n/*!*/ #include <x.h>\n".toList := by
  decide +kernel

end MakeAtlas.Source
