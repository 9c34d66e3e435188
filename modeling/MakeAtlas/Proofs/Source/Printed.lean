import MakeAtlas.Proofs.Source.Reported

/-!
# Printed sources

A source may be printed line by line: code with complete literals in it, comments, and directives.
Scrubbing reads each line of such a source as it is meant, whatever is in front of it and behind it.

## Key results

- `skipCommented?_eq_none`: a line is no directive unless it is meant to be one
- `Line.lexemes_pieces`: each line is read as its pieces
- `lexemes_print`: a printed source is read as the pieces of its lines
-/

namespace MakeAtlas.Source

open MakeAtlas.Text

/-! ## Lines -/

/-- The mark that opens a block comment. -/
def opening : List Char := ['/', '*']

/-- Spaces and tabs. -/
structure Blanks where
  chars : List Char
  inLine : ∀ c ∈ chars, isInlineBlank c = true

/-- The text of a block comment. -/
structure CommentBody where
  chars : List Char
  isOpen : ¬ closing <:+: chars

/-- The text of a block comment on one line. -/
structure InlineBody extends CommentBody where
  inLine : '\n' ∉ chars

/-- The text of a comment up to the end of its line. -/
structure LineBody where
  chars : List Char
  inLine : '\n' ∉ chars

/-- What stands in a literal: a character, or one that a backslash takes with it. -/
inductive LiteralPart (quote : Char) where
  | plain (c : Char) (h : c ≠ quote ∧ c ≠ '\\' ∧ c ≠ '\n')
  | escaped (c : Char) (h : c ≠ '\n')

/-- A string or a character literal. -/
structure Literal where
  quote : Char
  isQuote : quote = '"' ∨ quote = '\''
  parts : List (LiteralPart quote)

/-- What stands on a line of code: a character that opens nothing, or a literal. -/
inductive CodePart where
  | plain (c : Char) (h : c ∉ ['"', '\'', '/', '#', '\\', '\n'])
  | literal (l : Literal)

/-- A header name, in angle brackets or in quotes. -/
structure HeaderName where
  angled : Bool
  path : List Char
  ne_nil : path ≠ []
  trim_eq : trim path = path
  pathChars : ∀ c ∈ path, isPathChar c = true
  inLine : '\n' ∉ path
  noComment : ¬ opening <:+: path

/-- A directive, with the blanks and the comments on its line. -/
structure Directive where
  comments : List (Blanks × InlineBody)
  indent : Blanks
  first : Blanks
  second : Blanks
  name : HeaderName
  tail : Blanks
  comment : Option LineBody

/-- A line of a printed source. A block comment may reach over several lines of the text. -/
inductive Line where
  | code (parts : List CodePart)
  | lineComment (indent : Blanks) (body : LineBody)
  | blockComment (indent : Blanks) (body : CommentBody) (tail : Blanks)
  | directive (d : Directive)

/-! ## Printing -/

def LiteralPart.text {quote : Char} : LiteralPart quote → List Char
  | plain c _ => [c]
  | escaped c _ => ['\\', c]

/-- The text of a literal, without its quotes. -/
def Literal.body (l : Literal) : List Char :=
  l.parts.flatMap LiteralPart.text

/-- Characters outside comments and literals. -/
def plains (cs : List Char) : List Lexeme :=
  cs.map .plain

def CodePart.piece : CodePart → Lexeme
  | plain c _ => .plain c
  | literal l => .literal l.quote l.body

namespace HeaderName

/-- The mark that opens a header name. -/
def opens (name : HeaderName) : Char :=
  if name.angled then '<' else '"'

/-- The mark that closes a header name. -/
def closes (name : HeaderName) : Char :=
  if name.angled then '>' else '"'

def text (name : HeaderName) : List Char :=
  name.opens :: (name.path ++ [name.closes])

end HeaderName

namespace Directive

/-- What stands in front of the directive on its line. -/
def leading (d : Directive) : List Lexeme :=
  d.comments.flatMap fun (blanks, body) => plains blanks.chars ++ [.lead body.chars]

/-- What stands between the `#` and the header name. -/
def gap (d : Directive) : List Char :=
  d.first.chars ++ "include".toList ++ d.second.chars

/-- The directive itself. -/
def text (d : Directive) : List Char :=
  d.indent.chars ++ '#' :: (d.gap ++ d.name.text)

/-- What stands behind the directive on its line. -/
def trailing (d : Directive) : List Lexeme :=
  plains d.tail.chars ++ d.comment.toList.map fun body => .lineComment body.chars

end Directive

namespace Line

/-- The pieces of a line, without its line feed. -/
def content : Line → List Lexeme
  | code parts => parts.map CodePart.piece
  | lineComment indent body => plains indent.chars ++ [.lineComment body.chars]
  | blockComment indent body tail =>
    plains indent.chars ++ .comment body.chars :: plains tail.chars
  | directive d => d.leading ++ plains d.text ++ d.trailing

/-- The pieces of a line, which ends with a line feed. -/
def pieces (l : Line) : List Lexeme :=
  l.content ++ [.plain '\n']

/-- The path that a line names. -/
def path? : Line → Option (List Char)
  | directive d => some d.name.path
  | _ => none

end Line

/-- The text of a source, line by line. -/
def print (lines : List Line) : String :=
  String.ofList (lines.flatMap fun l => written l.pieces)

/-- What is to be reported for a source, given the number of its first line. -/
def directives (number : Nat) : List Line → List Include
  | [] => []
  | l :: lines =>
    (l.path?.map fun path => ⟨String.ofList path, number⟩).toList ++
      directives (number + (written l.pieces).count '\n') lines

/-! ## Reading a line -/

@[simp] theorem written_plains (cs : List Char) : written (plains cs) = cs := by
  induction cs with
  | nil => rfl
  | cons c cs ih => exact congrArg (c :: ·) ih

@[simp] theorem scrubbed_plains (cs : List Char) : scrubbed (plains cs) = cs := by
  induction cs with
  | nil => rfl
  | cons c cs ih => exact congrArg (c :: ·) ih

theorem Blanks.not_mem (blanks : Blanks) {c : Char} (hc : isInlineBlank c = false) :
    c ∉ blanks.chars := by
  intro hmem
  rw [blanks.inLine c hmem] at hc
  cases hc

namespace Rules

variable {rules : Rules} {rest : List Char}

theorem lexemes_lineFeed {lineStart : Bool} :
    rules.lexemes lineStart ('\n' :: rest) = .plain '\n' :: rules.lexemes true rest := by
  rw [lexemes_cons, step_lineFeed]
  rfl

/-- Within a line, a piece is read that does not begin with a line feed. -/
private theorem lexemes_of_pieceStep_false {c : Char} {cs behind : List Char} {l : Lexeme}
    (hc : c ≠ '\n') (h : rules.pieceStep c cs = ([l], behind)) :
    rules.lexemes false (c :: cs) = l :: rules.lexemes false behind := by
  have hnone : false = true → rules.directive? (c :: cs) = none := nofun
  rw [lexemes_of_pieceStep hnone h, beq_eq_false_iff_ne.2 hc]
  rfl

theorem lexemes_plains {cs : List Char} (h : ∀ c ∈ cs, c ∉ ['/', '"', '\'', '\n']) :
    rules.lexemes false (cs ++ rest) = plains cs ++ rules.lexemes false rest := by
  induction cs with
  | nil => rfl
  | cons c cs ih =>
    have hc := h c List.mem_cons_self
    simp only [List.mem_cons, List.not_mem_nil, or_false, not_or] at hc
    have hpiece : rules.pieceStep c (cs ++ rest) = ([.plain c], cs ++ rest) :=
      rules.pieceStep_of_not_mem (by simp [hc])
    rw [List.cons_append, lexemes_of_pieceStep_false hc.2.2.2 hpiece,
      ih fun d hd => h d (List.mem_cons_of_mem _ hd)]
    rfl

theorem lexemes_blanks (blanks : Blanks) :
    rules.lexemes false (blanks.chars ++ rest) =
      plains blanks.chars ++ rules.lexemes false rest := by
  refine lexemes_plains fun c hc hmem => ?_
  have hblank := blanks.inLine c hc
  simp only [List.mem_cons, List.not_mem_nil, or_false] at hmem
  rcases hmem with rfl | rfl | rfl | rfl <;> exact absurd hblank (by decide)

theorem lexemes_comment (body : CommentBody) :
    rules.lexemes false (written [.comment body.chars] ++ rest) =
      .comment body.chars :: rules.lexemes false rest := by
  have hclose : closeComment? (body.chars ++ '*' :: '/' :: rest) = some (body.chars, rest) :=
    closeComment?_eq_some_iff.2 ⟨rfl, body.isOpen⟩
  have hpiece : rules.pieceStep '/' ('*' :: (body.chars ++ '*' :: '/' :: rest)) =
      ([.comment body.chars], rest) := by
    simp only [pieceStep, hclose]
  simpa [Lexeme.written] using lexemes_of_pieceStep_false (by decide) hpiece

theorem lexemes_lineComment (body : LineBody) :
    rules.lexemes false (written [.lineComment body.chars] ++ '\n' :: rest) =
      .lineComment body.chars :: rules.lexemes false ('\n' :: rest) := by
  have hline : ∀ c ∈ body.chars, (c != '\n') = true := by
    intro c hc
    rw [bne_iff_ne]
    rintro rfl
    exact body.inLine hc
  have hpiece : rules.pieceStep '/' ('/' :: (body.chars ++ '\n' :: rest)) =
      ([.lineComment body.chars], '\n' :: rest) := by
    simp [pieceStep, List.takeWhile_append_of_pos hline, List.dropWhile_append_of_pos hline]
  simpa [Lexeme.written] using lexemes_of_pieceStep_false (by decide) hpiece

end Rules

/-- A literal ends with the quote behind its parts. -/
theorem literalBody?_parts {joinsLines : Bool} {quote : Char} {rest : List Char}
    (hquote : quote ≠ '\\') (parts : List (LiteralPart quote)) :
    literalBody? joinsLines quote (parts.flatMap LiteralPart.text ++ quote :: rest) =
      some (parts.flatMap LiteralPart.text, rest) := by
  induction parts with
  | nil => simp [literalBody?, hquote]
  | cons part parts ih =>
    cases part with
    | plain c h => simp [LiteralPart.text, literalBody?, h, ih]
    | escaped c h => simp [LiteralPart.text, literalBody?, h, ih]

namespace Rules

variable {rules : Rules} {rest : List Char}

theorem lexemes_literal (l : Literal) :
    rules.lexemes false (written [.literal l.quote l.body] ++ rest) =
      .literal l.quote l.body :: rules.lexemes false rest := by
  obtain ⟨quote, hquote, parts⟩ := l
  have hpiece : rules.pieceStep quote (parts.flatMap LiteralPart.text ++ quote :: rest) =
      ([.literal quote (parts.flatMap LiteralPart.text)], rest) := by
    rcases hquote with rfl | rfl <;>
      simp only [pieceStep, literalStep, literalBody?_parts (by decide : _ ≠ '\\') parts]
  have hline : quote ≠ '\n' := by
    rcases hquote with rfl | rfl <;> decide
  simpa [Lexeme.written, Literal.body] using lexemes_of_pieceStep_false hline hpiece

theorem lexemes_code (parts : List CodePart) :
    rules.lexemes false (written (parts.map CodePart.piece) ++ rest) =
      parts.map CodePart.piece ++ rules.lexemes false rest := by
  induction parts with
  | nil => rfl
  | cons part parts ih =>
    rw [List.map_cons, ← List.singleton_append, written_append, List.append_assoc]
    cases part with
    | plain c h =>
      have hc : ∀ d ∈ [c], d ∉ ['/', '"', '\'', '\n'] := by
        intro d hd
        rw [List.mem_singleton.1 hd]
        have hmarks : ['/', '"', '\'', '\n'] ⊆ ['"', '\'', '/', '#', '\\', '\n'] := by decide
        exact fun hmem => h (hmarks hmem)
      exact (lexemes_plains hc).trans (congrArg (_ :: ·) ih)
    | literal l => exact (lexemes_literal l).trans (congrArg (_ :: ·) ih)

end Rules

/-! ## Lines that are no directives -/

section

variable {c : Char} {cs : List Char}

theorem skipInline_blanks (blanks : Blanks) (cs : List Char) :
    skipInline (blanks.chars ++ cs) = skipInline cs :=
  List.dropWhile_append_of_pos blanks.inLine

theorem skipCommented?_blanks (blanks : Blanks) (cs : List Char) :
    skipCommented? (blanks.chars ++ cs) = skipCommented? cs := by
  rw [skipCommented?_eq, skipInline_blanks, ← skipCommented?_eq]

/-- A line whose first character opens neither a directive nor a comment is no directive. -/
theorem skipCommented?_cons (hblank : isInlineBlank c = false) (hmark : c ≠ '#')
    (hcomment : c = '/' → cs.head? ≠ some '*') : skipCommented? (c :: cs) = none := by
  have hskip : skipInline (c :: cs) = c :: cs :=
    List.dropWhile_cons_of_neg (by rw [hblank]; exact Bool.false_ne_true)
  have hno : after? ['/', '*'] (c :: cs) = none := by
    rw [Option.eq_none_iff_forall_ne_some]
    intro rest hrest
    cases after?_eq_some_iff.1 hrest
    exact hcomment rfl rfl
  have hnone : after? ['#'] (c :: cs) = none := if_neg (Ne.symm hmark)
  rw [skipCommented?_eq, hskip, hno]
  simp only [skipDirective?, hnone]
  rfl

theorem skipCommented?_lineFeed (cs : List Char) : skipCommented? ('\n' :: cs) = none :=
  skipCommented?_cons (by decide) (by decide) (fun h => absurd h (by decide))

/-- A comment in front of the end of a line is no directive, and neither is one that is closed on
    another line. -/
theorem skipCommented?_comment (body : CommentBody) (tail : Blanks) (rest : List Char) :
    skipCommented? (written [.comment body.chars] ++ tail.chars ++ '\n' :: rest) = none := by
  have hafter : after? ['/', '*']
      (skipInline (written [.comment body.chars] ++ tail.chars ++ '\n' :: rest)) =
        some (body.chars ++ '*' :: '/' :: (tail.chars ++ '\n' :: rest)) := by
    rw [after?_eq_some_iff]
    simp [Lexeme.written, skipInline, isInlineBlank]
  have hend : skipCommented? (tail.chars ++ '\n' :: rest) = none := by
    rw [skipCommented?_blanks]
    exact skipCommented?_lineFeed rest
  -- no other mark on the line could close the comment
  have hmore : inlineClosings ('/' :: (tail.chars ++ '\n' :: rest)) = [] := by
    have hnone : ¬ closing <:+: '/' :: tail.chars ++ ['\n'] := by
      intro hclosing
      have hstar : '*' ∈ '/' :: tail.chars ++ ['\n'] := hclosing.subset List.mem_cons_self
      simp [tail.not_mem (by decide : isInlineBlank '*' = false)] at hstar
    have hline : '\n' ∈ '/' :: tail.chars ++ ['\n'] := by simp
    simpa using inlineClosings_of_mem hnone hline rest
  rw [skipCommented?_eq, hafter]
  by_cases hline : '\n' ∈ body.chars
  · simp [inlineClosings_of_mem body.isOpen hline]
  · simp [inlineClosings_body body.isOpen hline, hmore, hend]

/-- Code starts with a character that opens neither a directive nor a comment. -/
theorem skipCommented?_code (parts : List CodePart) (rest : List Char) :
    skipCommented? (written (parts.map CodePart.piece) ++ '\n' :: rest) = none := by
  induction parts with
  | nil => exact skipCommented?_lineFeed rest
  | cons part parts ih =>
    cases part with
    | plain c h =>
      by_cases hblank : isInlineBlank c = true
      · -- what follows a blank is code again
        have hskip : ∀ cs, skipCommented? (c :: cs) = skipCommented? cs :=
          skipCommented?_blanks ⟨[c], by simpa using hblank⟩
        exact (hskip _).trans ih
      · refine skipCommented?_cons (by simpa using hblank) ?_ ?_
        · rintro rfl
          exact h (by decide)
        · rintro rfl
          exact absurd (by decide) h
    | literal l =>
      have hquote : ∀ q, q = '"' ∨ q = '\'' → ∀ cs, skipCommented? (q :: cs) = none := by
        rintro q (rfl | rfl) cs <;>
          exact skipCommented?_cons (by decide) (by decide) (fun h => absurd h (by decide))
      exact hquote l.quote l.isQuote _

end

namespace Line

/-- A line is no directive unless it is meant to be one. -/
theorem skipCommented?_eq_none {l : Line} (h : ∀ d, l ≠ directive d) (rest : List Char) :
    skipCommented? (written l.pieces ++ rest) = none := by
  rw [pieces, written_append, List.append_assoc]
  cases l with
  | code parts => exact skipCommented?_code parts rest
  | lineComment indent body =>
    rw [content, written_append, written_plains, List.append_assoc, skipCommented?_blanks]
    exact skipCommented?_cons (by decide) (by decide)
      (fun _ h => absurd (Option.some.inj h) (by decide))
  | blockComment indent body tail =>
    rw [content, written_append, written_plains, List.append_assoc, skipCommented?_blanks,
      ← List.singleton_append, written_append, written_plains]
    exact skipCommented?_comment body tail rest
  | directive d => exact absurd rfl (h d)

/-- A line that is no directive is read as its pieces. -/
theorem lexemes_content {rules : Rules} {l : Line} (h : ∀ d, l ≠ directive d) (rest : List Char) :
    rules.lexemes false (written l.content ++ '\n' :: rest) =
      l.content ++ rules.lexemes false ('\n' :: rest) := by
  cases l with
  | code parts => exact Rules.lexemes_code parts
  | lineComment indent body =>
    rw [content, written_append, written_plains, List.append_assoc, Rules.lexemes_blanks,
      Rules.lexemes_lineComment, List.append_assoc]
    rfl
  | blockComment indent body tail =>
    rw [content, written_append, written_plains, List.append_assoc, Rules.lexemes_blanks,
      ← List.singleton_append, written_append, written_plains, List.append_assoc,
      Rules.lexemes_comment, Rules.lexemes_blanks]
    simp
  | directive d => exact absurd rfl (h d)

end Line

/-! ## Directives -/

theorem HeaderName.marks (name : HeaderName) :
    (name.opens = '<' ∧ name.closes = '>') ∨ (name.opens = '"' ∧ name.closes = '"') := by
  unfold opens closes
  cases name.angled
  · exact Or.inr ⟨rfl, rfl⟩
  · exact Or.inl ⟨rfl, rfl⟩

theorem HeaderName.skipHeaderName?_eq (name : HeaderName) (behind : List Char) :
    skipHeaderName? (name.text ++ behind) = some behind := by
  have hcut : ∀ mark, isPathChar mark = false →
      cutInLine? mark (name.path ++ mark :: behind) = some (name.path, behind) := by
    intro mark hmark
    have hnot : mark ∉ name.path := fun hmem => by simp [name.pathChars mark hmem] at hmark
    exact cutInLine?_eq_some_iff.2 ⟨rfl, hnot, name.inLine⟩
  rcases name.marks with ⟨hopens, hcloses⟩ | ⟨hopens, hcloses⟩
  · simp [text, hopens, hcloses, skipHeaderName?, hcut '>' (by decide)]
  · simp [text, hopens, hcloses, skipHeaderName?, hcut '"' (by decide)]

/-- A character that opens no comment is a piece of its own. -/
theorem directiveLexemes_cons {c : Char} {cs : List Char} (h : c = '/' → cs.head? ≠ some '*') :
    directiveLexemes (c :: cs) = .plain c :: directiveLexemes cs := by
  rw [directiveLexemes.eq_3]
  rintro body hc rfl
  exact h hc rfl

theorem directiveLexemes_plains {cs : List Char} (h : '/' ∉ cs) (behind : List Char) :
    directiveLexemes (cs ++ behind) = plains cs ++ directiveLexemes behind := by
  induction cs with
  | nil => rfl
  | cons c cs ih =>
    rw [List.mem_cons, not_or] at h
    rw [List.cons_append, directiveLexemes_cons (fun hc => absurd hc.symm h.1), ih h.2]
    rfl

theorem directiveLexemes_of_not_opening {cs behind : List Char} (h : ¬ opening <:+: cs)
    (hbehind : behind.head? ≠ some '*') :
    directiveLexemes (cs ++ behind) = plains cs ++ directiveLexemes behind := by
  induction cs with
  | nil => rfl
  | cons c cs ih =>
    rw [opening, pair_infix_cons_iff, not_or, not_and] at h
    rw [List.cons_append, directiveLexemes_cons, ih h.2]
    · rfl
    · intro hc
      cases cs with
      | nil => exact hbehind
      | cons d cs => exact h.1 hc

theorem HeaderName.directiveLexemes_text (name : HeaderName) :
    directiveLexemes name.text = plains name.text := by
  have hmarks : name.opens ≠ '/' ∧ name.closes ≠ '/' ∧ name.closes ≠ '*' := by
    rcases name.marks with ⟨hopens, hcloses⟩ | ⟨hopens, hcloses⟩ <;>
      rw [hopens, hcloses] <;> decide
  have hcloses : directiveLexemes [name.closes] = plains [name.closes] := by
    rw [directiveLexemes_cons fun h => absurd h hmarks.2.1, directiveLexemes]
    rfl
  have hstar : [name.closes].head? ≠ some '*' := fun h => hmarks.2.2 (Option.some.inj h)
  rw [text, directiveLexemes_cons fun h => absurd h hmarks.1,
    directiveLexemes_of_not_opening name.noComment hstar, hcloses]
  simp [plains]

theorem directiveLexemes_lead (body : InlineBody) (behind : List Char) :
    directiveLexemes (written [.lead body.chars] ++ behind) =
      .lead body.chars :: directiveLexemes behind := by
  have hclose : closeComment? (body.chars ++ '*' :: '/' :: behind) = some (body.chars, behind) :=
    closeComment?_eq_some_iff.2 ⟨rfl, body.isOpen⟩
  have hwritten : written [.lead body.chars] ++ behind =
      '/' :: '*' :: (body.chars ++ '*' :: '/' :: behind) := by
    simp [Lexeme.written]
  rw [hwritten, directiveLexemes]
  split
  · next h =>
    cases hclose.symm.trans h
    rfl
  · next h => cases hclose.symm.trans h

theorem skipStanding?_blanks (blanks : Blanks) (cs : List Char) :
    skipStanding? (blanks.chars ++ cs) = skipStanding? cs := by
  rw [skipStanding?_eq, skipInline_blanks, ← skipStanding?_eq]

theorem skipStanding?_lead (body : InlineBody) (cs : List Char) :
    skipStanding? (written [.lead body.chars] ++ cs) = skipStanding? cs := by
  have hafter : after? ['/', '*'] (skipInline (written [.lead body.chars] ++ cs)) =
      some (body.chars ++ '*' :: '/' :: cs) := by
    rw [after?_eq_some_iff]
    simp [Lexeme.written, skipInline, isInlineBlank]
  have hclose : closeInline? (body.chars ++ '*' :: '/' :: cs) = some cs :=
    closeInline?_eq_some_iff.2
      ⟨body.chars, closeComment?_eq_some_iff.2 ⟨rfl, body.isOpen⟩, body.inLine⟩
  rw [skipStanding?_eq, hafter]
  simp only [hclose, Option.bind_some]

namespace Directive

variable (d : Directive) (behind : List Char)

theorem skipStanding?_text : skipStanding? (d.text ++ behind) = some behind := by
  have hno : ∀ cs, after? ['/', '*'] (skipInline ('#' :: cs)) = none := fun _ => rfl
  have hhash : ∀ cs, after? ['#'] (skipInline ('#' :: cs)) = some cs := fun _ => rfl
  have hword : ∀ cs, after? "include".toList (skipInline ("include".toList ++ cs)) = some cs :=
    fun _ => after?_eq_some_iff.2 rfl
  have hname : skipInline (d.name.text ++ behind) = d.name.text ++ behind := by
    refine List.dropWhile_cons_of_neg ?_
    rcases d.name.marks with ⟨hopens, -⟩ | ⟨hopens, -⟩ <;> rw [hopens] <;> decide
  rw [text, List.append_assoc, skipStanding?_blanks, skipStanding?_eq, List.cons_append, hno]
  simp only [skipDirective?, hhash, gap, Option.bind_eq_bind, Option.bind_some, List.append_assoc,
    skipInline_blanks, hword, hname, HeaderName.skipHeaderName?_eq]

theorem skipStanding?_leading (cs : List Char) :
    skipStanding? (written d.leading ++ cs) = skipStanding? cs := by
  rw [leading]
  induction d.comments with
  | nil => rfl
  | cons comment comments ih =>
    rw [List.flatMap_cons, written_append, written_append, written_plains, List.append_assoc,
      List.append_assoc, skipStanding?_blanks, skipStanding?_lead, ih]

theorem directiveLexemes_text : directiveLexemes d.text = plains d.text := by
  have hslash : ∀ blanks : Blanks, '/' ∉ blanks.chars := fun blanks => blanks.not_mem (by decide)
  have hfront : '/' ∉ d.indent.chars ++ '#' :: d.gap := by
    simp [gap, hslash]
  have htext : d.text = (d.indent.chars ++ '#' :: d.gap) ++ d.name.text := by
    simp [text]
  rw [htext, directiveLexemes_plains hfront, d.name.directiveLexemes_text]
  simp [plains]

theorem directiveLexemes_leading (cs : List Char) :
    directiveLexemes (written d.leading ++ cs) = d.leading ++ directiveLexemes cs := by
  rw [leading]
  induction d.comments with
  | nil => rfl
  | cons comment comments ih =>
    rw [List.flatMap_cons, written_append, written_append, written_plains, List.append_assoc,
      List.append_assoc, directiveLexemes_plains (comment.1.not_mem (by decide)),
      directiveLexemes_lead, ih]
    simp

theorem lexemes_trailing (rules : Rules) :
    rules.lexemes false (written d.trailing ++ '\n' :: behind) =
      d.trailing ++ .plain '\n' :: rules.lexemes true behind := by
  rw [trailing, written_append, written_plains, List.append_assoc, Rules.lexemes_blanks]
  cases d.comment with
  | none => simp [Rules.lexemes_lineFeed]
  | some body =>
    show _ ++ rules.lexemes false (written [.lineComment body.chars] ++ _) = _
    rw [Rules.lexemes_lineComment, Rules.lexemes_lineFeed]
    simp

/-- A directive is read as its pieces. -/
theorem lexemes_pieces :
    Rules.ofScrubbing.lexemes true (written (Line.directive d).pieces ++ behind) =
      (Line.directive d).pieces ++ Rules.ofScrubbing.lexemes true behind := by
  have hwritten : written (Line.directive d).pieces ++ behind =
      (written d.leading ++ d.text) ++ (written d.trailing ++ '\n' :: behind) := by
    simp [Line.pieces, Line.content, Lexeme.written]
  -- the comments in front are skipped together with the directive
  have hskip : Rules.ofScrubbing.directive?
      ((written d.leading ++ d.text) ++ (written d.trailing ++ '\n' :: behind)) =
        some (written d.trailing ++ '\n' :: behind) := by
    apply skipCommented?_of_standing
    rw [List.append_assoc, skipStanding?_leading, skipStanding?_text]
  rw [hwritten, Rules.lexemes_of_directive? hskip, directiveLexemes_leading,
    directiveLexemes_text, lexemes_trailing]
  simp [Line.pieces, Line.content]

end Directive

/-- Each line of a printed source is read as its pieces. -/
theorem Line.lexemes_pieces (l : Line) (behind : List Char) :
    Rules.ofScrubbing.lexemes true (written l.pieces ++ behind) =
      l.pieces ++ Rules.ofScrubbing.lexemes true behind := by
  have hread : (∀ d, l ≠ directive d) →
      Rules.ofScrubbing.lexemes true (written l.pieces ++ behind) =
        l.pieces ++ Rules.ofScrubbing.lexemes true behind := by
    intro h
    -- no directive is looked for within the line
    rw [Rules.lexemes_of_directive?_eq_none (skipCommented?_eq_none h behind), pieces,
      written_append, List.append_assoc]
    show Rules.ofScrubbing.lexemes false (written l.content ++ '\n' :: behind) = _
    rw [lexemes_content h, Rules.lexemes_lineFeed, List.append_assoc]
    rfl
  cases l with
  | directive d => exact d.lexemes_pieces behind
  | code parts => exact hread nofun
  | lineComment indent body => exact hread nofun
  | blockComment indent body tail => exact hread nofun

/-- A printed source is read as the pieces of its lines. -/
theorem lexemes_print (lines : List Line) :
    Rules.ofScrubbing.lexemes true (print lines).toList = lines.flatMap Line.pieces := by
  rw [print, String.toList_ofList]
  induction lines with
  | nil => simp [Rules.lexemes]
  | cons l lines ih => rw [List.flatMap_cons, List.flatMap_cons, l.lexemes_pieces, ih]

end MakeAtlas.Source
