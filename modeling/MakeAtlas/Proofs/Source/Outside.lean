import MakeAtlas.Proofs.Source.Reported
import Mathlib.Data.List.Infix

/-!
# Includes outside of comments and literals

Scrubbing and plain reading agree on a source up to each directive that is reported, so the `#` of
the directive is outside of every comment and literal. What tells them apart is a line in front
that scrubbing takes for a directive although none stands at its start: the header name is kept
then, and what opens in it or behind it may be read the other way round. If no literal may go on
over a line feed, a literal in front that does so tells them apart, too.

## Key results

- `step_standing`: a step of scrubbing is a step of plain reading
- `exists_lexemes_standing`: both come to the `#` of a directive in the same place
- `outside_unless_mistaken`: where the directives that are reported stand
- `comment_reported`: a directive in a comment that is reported
-/

namespace MakeAtlas.Source

open MakeAtlas.Text

/-! ## One step -/

/-- A literal that may not go on over a line feed is one that might, but does not. -/
theorem literalBody?_false (quote : Char) (cs : List Char) :
    literalBody? false quote cs =
      (literalBody? true quote cs).filter fun found => !found.1.contains '\n' := by
  fun_induction literalBody? true quote cs with
  | case1 => rfl
  | case2 => rfl
  | case3 _ _ hjoins => cases hjoins.2
  | case4 c rest _ ih =>
    rw [literalBody?, ih, Option.filter_map]
    by_cases hc : c = '\n'
    · simp [hc, Function.comp_def]
    · simp [hc, Ne.symm hc, Function.comp_def]
  | case5 rest => simp [literalBody?, Option.filter_some]
  | case6 rest _ _ hquote => simp [literalBody?, hquote]
  | case7 c rest hend hescape hquote hline ih =>
    rw [literalBody?, if_neg hquote, if_neg hline, ih, Option.filter_map]
    · simp [Ne.symm hline, Function.comp_def]
    · exact hend
    · exact hescape

namespace Rules

variable {joinsLines lineStart : Bool} {c : Char} {rest : List Char}

private theorem literalStep_standing {quote : Char}
    (h : joinsLines = false → joinedLines (ofScrubbing.literalStep quote rest).1 = 0) :
    (standing joinsLines).literalStep quote rest = ofScrubbing.literalStep quote rest := by
  cases joinsLines with
  | true => rfl
  | false =>
    have hbody : literalBody? false quote rest = literalBody? true quote rest := by
      rw [literalBody?_false]
      cases hfound : literalBody? true quote rest with
      | none => rfl
      | some found =>
        have hzero := h rfl
        simp only [literalStep, ofScrubbing, hfound, joinedLines_cons, Lexeme.joinedLines,
          joinedLines_nil, Nat.add_zero, List.count_eq_zero] at hzero
        simp [hzero]
    simp only [literalStep, standing, ofScrubbing, hbody]

private theorem pieceStep_standing
    (h : joinsLines = false → joinedLines (ofScrubbing.pieceStep c rest).1 = 0) :
    (standing joinsLines).pieceStep c rest = ofScrubbing.pieceStep c rest := by
  unfold pieceStep at h ⊢
  split at h
  · rfl
  · rfl
  · exact literalStep_standing h
  · exact literalStep_standing h
  · rfl

/-- A step of scrubbing is a step of plain reading, except at the start of a line that is mistaken
    and at a literal that may not go on over a line feed. -/
theorem step_standing (hline : lineStart = true → ¬ IsMistaken (c :: rest))
    (hjoined : joinsLines = false → joinedLines (ofScrubbing.step lineStart c rest).1 = 0) :
    (standing joinsLines).step lineStart c rest = ofScrubbing.step lineStart c rest := by
  have hdirective : (if lineStart then (standing joinsLines).directive? (c :: rest) else none) =
      if lineStart then ofScrubbing.directive? (c :: rest) else none := by
    cases lineStart with
    | false => rfl
    | true => exact skipStanding?_eq_skipCommented? (hline rfl)
  unfold step at hjoined ⊢
  rw [hdirective]
  split
  · rfl
  · next hnone =>
    rw [hnone] at hjoined
    exact pieceStep_standing hjoined

theorem joinedLines_directiveLexemes (cs : List Char) : joinedLines (directiveLexemes cs) = 0 := by
  fun_induction directiveLexemes cs with
  | case1 => rfl
  | case2 _ _ _ _ _ ih => simp [Lexeme.joinedLines, ih]
  | case3 _ _ ih => simp [Lexeme.joinedLines, ih]
  | case4 _ _ _ ih => simp [Lexeme.joinedLines, ih]

/-- A literal is read alone. -/
theorem joinedLines_step_of_mem (rules : Rules) {d : Char}
    (h : Lexeme.plain d ∈ (rules.step lineStart c rest).1) :
    joinedLines (rules.step lineStart c rest).1 = 0 := by
  unfold step at h ⊢
  split
  · exact joinedLines_directiveLexemes _
  · next hnone =>
    rw [hnone] at h
    obtain ⟨l, hl, -⟩ := exists_pieceStep rules c rest
    rw [hl] at h ⊢
    rw [← List.mem_singleton.1 h]
    rfl

end Rules

/-! ## The line of a directive -/

/-- Of the comments and blanks in front of a directive, no literal can be made: any reading comes to
    the `#`. -/
theorem exists_lexemes_of_blank (rules : Rules) {cs behind : List Char} {lineStart : Bool}
    {before more : List Lexeme} (hline : '\n' ∉ cs)
    (hnone : lineStart = true → rules.directive? (cs ++ behind) = none)
    (hpieces : directiveLexemes cs = before ++ .plain '#' :: more)
    (hblank : ∀ c ∈ scrubbed before, isBlank c = true) :
    ∃ front others, rules.lexemes lineStart (cs ++ behind) = front ++ .plain '#' :: others ∧
      written front = written before := by
  fun_induction directiveLexemes cs generalizing lineStart before with
  | case1 => simp at hpieces
  | case2 body comment rest hclose _ ih =>
    cases before with
    | nil => cases hpieces
    | cons l before =>
      rw [List.cons_append, List.cons.injEq] at hpieces
      obtain ⟨rfl, hpieces⟩ := hpieces
      -- a comment in front of a directive is a comment anywhere
      have hpiece : rules.pieceStep '/' ('*' :: body ++ behind) =
          ([.comment comment], rest ++ behind) := by
        simp only [Rules.pieceStep, List.cons_append, closeComment?_append hclose]
      obtain ⟨rfl, -⟩ := closeComment?_eq_some_iff.1 hclose
      obtain ⟨front, others, hrest, hwritten⟩ := @ih false before
        (fun hmem => hline (by simp [hmem])) (by simp) hpieces
        (fun c hc => hblank c (by simp [hc]))
      refine ⟨.comment comment :: front, others, ?_, by simp [hwritten, Lexeme.written]⟩
      exact (Rules.lexemes_of_pieceStep hnone hpiece).trans (congrArg (_ :: ·) hrest)
  | case3 body _ ih =>
    cases before with
    | nil => cases hpieces
    | cons l before =>
      rw [List.cons_append, List.cons.injEq] at hpieces
      obtain ⟨rfl, -⟩ := hpieces
      -- the slash of a mark that opens nothing is left, and no blank
      exact absurd (hblank '/' (by simp [Lexeme.scrubbed])) (by decide)
  | case4 c rest hopen ih =>
    cases before with
    | nil =>
      cases hpieces
      exact ⟨[], _, Rules.lexemes_of_pieceStep hnone (rules.pieceStep_of_not_mem (by decide)), rfl⟩
    | cons l before =>
      rw [List.cons_append, List.cons.injEq] at hpieces
      obtain ⟨rfl, hpieces⟩ := hpieces
      have hc := hblank c (by simp [Lexeme.scrubbed])
      have hplain : c ∉ ['/', '"', '\''] := by
        intro hmem
        simp only [List.mem_cons, List.not_mem_nil, or_false] at hmem
        rcases hmem with rfl | rfl | rfl <;> exact absurd hc (by decide)
      have hnext : (c == '\n') = false := by
        rw [beq_eq_false_iff_ne]
        rintro rfl
        exact hline List.mem_cons_self
      obtain ⟨front, others, hrest, hwritten⟩ := @ih (c == '\n') before
        (fun hmem => hline (List.mem_cons_of_mem _ hmem)) (by simp [hnext]) hpieces
        (fun d hd => hblank d (by simp [hd]))
      refine ⟨.plain c :: front, others, ?_, by simp [hwritten, Lexeme.written]⟩
      exact (Rules.lexemes_of_pieceStep hnone (rules.pieceStep_of_not_mem hplain)).trans
        (congrArg (_ :: ·) hrest)

theorem mem_directiveLexemes {cs : List Char} {l : Lexeme} (h : l ∈ directiveLexemes cs) :
    (∃ body, l = .lead body) ∨ ∃ c, l = .plain c := by
  fun_induction directiveLexemes cs with
  | case1 => cases h
  | case2 _ _ _ _ _ ih => exact (List.mem_cons.1 h).elim (fun hl => Or.inl ⟨_, hl⟩) ih
  | case3 _ _ ih => exact (List.mem_cons.1 h).elim (fun hl => Or.inr ⟨_, hl⟩) ih
  | case4 _ _ _ ih => exact (List.mem_cons.1 h).elim (fun hl => Or.inr ⟨_, hl⟩) ih

/-- The mark that closes the header name of a directive is left. -/
theorem mem_scrubbed_directiveLexemes {taken : List Char} {mark : Char} (hmark : mark ≠ '/') :
    mark ∈ scrubbed (directiveLexemes (taken ++ [mark])) := by
  have hwritten := written_directiveLexemes (taken ++ [mark])
  -- a comment in front would end with its own mark
  rcases List.eq_nil_or_concat (directiveLexemes (taken ++ [mark])) with hnil | ⟨front, l, hl⟩
  · rw [hnil] at hwritten
    simp at hwritten
  · rw [List.concat_eq_append] at hl
    rw [hl]
    rw [hl, written_append, written_cons, written_nil, List.append_nil] at hwritten
    have hlast := congrArg List.getLast? hwritten
    rcases mem_directiveLexemes (hl ▸ List.mem_append_right front (List.mem_singleton_self l))
      with ⟨body, rfl⟩ | ⟨d, rfl⟩
    · have hslash : mark = '/' := by simpa [Lexeme.written, List.getLast?_cons] using hlast.symm
      exact absurd hslash hmark
    · have hd : d = mark := by simpa [Lexeme.written] using hlast
      simp [hd, Lexeme.scrubbed]

theorem EndsIndented.isBlank {done before : List Char} (h : EndsIndented (done ++ before))
    (hline : '\n' ∉ before) : ∀ c ∈ before, isBlank c = true := by
  obtain ⟨above, indent, hsplit, habove, hindent⟩ := h
  rcases List.append_eq_append_iff.1 hsplit with ⟨more, rfl, rfl⟩ | ⟨more, rfl, rfl⟩
  · -- a line that started here would have a line feed in front
    rcases List.eq_nil_or_concat more with rfl | ⟨front, c, rfl⟩
    · exact hindent
    · have hc := habove c (by simp)
      exact absurd (by simp [hc]) hline
  · exact fun c hc => hindent c (List.mem_append_right _ hc)

/-! ## Up to a directive -/

/-- None of the lines that start in these pieces, behind others, and end in them is mistaken. -/
def Unmistaken (done pieces : List Lexeme) (rest : List Char) : Prop :=
  ∀ first second, pieces = first ++ second → StartsLine (written (done ++ first)) →
    '\n' ∈ written second → ¬ IsMistaken (written second ++ rest)

/-- On the line of a directive that is reported, it does not matter whether the line is mistaken.
    Both readings come to the `#`. -/
theorem exists_lexemes_of_mistaken {joinsLines : Bool} {c : Char} {rest : List Char}
    {before behind : List Lexeme} (hmistaken : IsMistaken (c :: rest))
    (hpieces : Rules.ofScrubbing.lexemes true (c :: rest) = before ++ .plain '#' :: behind)
    (hblank : ∀ c ∈ scrubbed before, isBlank c = true) :
    ∃ front others,
      (Rules.standing joinsLines).lexemes true (c :: rest) = front ++ .plain '#' :: others ∧
      written front = written before := by
  obtain ⟨found, hfound⟩ := Option.isSome_iff_exists.1 hmistaken.1
  obtain ⟨mark, hmark, taken, htaken, hline⟩ := reachesMark_of_skipCommented? hfound
  have hcs : c :: rest = (taken ++ [mark]) ++ found := by
    rw [htaken]
    simp
  rw [hcs] at hfound hmistaken hpieces ⊢
  rw [Rules.lexemes_of_directive? hfound] at hpieces
  have hslash : mark ≠ '/' := by
    rcases hmark with rfl | rfl <;> decide
  rcases append_eq_append_cons hpieces with ⟨more, rfl, -⟩ | ⟨more, hmore, -⟩
  · -- behind the line's directive there would be more than blanks in front of the `#`
    have hleft : mark ∈ scrubbed (directiveLexemes (taken ++ [mark]) ++ more) := by
      rw [scrubbed_append]
      exact List.mem_append_left _ (mem_scrubbed_directiveLexemes hslash)
    have hmarkBlank := hblank mark hleft
    rcases hmark with rfl | rfl <;> exact absurd hmarkBlank (by decide)
  · have hmarkLine : '\n' ∉ taken ++ [mark] := by
      rcases hmark with rfl | rfl <;> simpa using hline
    exact exists_lexemes_of_blank _ hmarkLine (fun _ => hmistaken.2) hmore hblank

/-- Scrubbing and plain reading come to the `#` of a directive in the same place. -/
theorem exists_lexemes_standing {joinsLines lineStart : Bool} {cs : List Char}
    {done before behind : List Lexeme}
    (hpieces : Rules.ofScrubbing.lexemes lineStart cs = before ++ .plain '#' :: behind)
    (hstart : lineStart = true → StartsLine (written done))
    (hindented : EndsIndented (scrubbed (done ++ before)))
    (hjoined : joinsLines = false → joinedLines before = 0)
    (hmistaken : Unmistaken done before (written (.plain '#' :: behind))) :
    ∃ front others,
      (Rules.standing joinsLines).lexemes lineStart cs = front ++ .plain '#' :: others ∧
      written front = written before := by
  fun_induction Rules.lexemes Rules.ofScrubbing lineStart cs generalizing done before with
  | case1 => simp at hpieces
  | case2 lineStart c rest _ ih =>
    rw [← Rules.lexemes_cons] at hpieces
    by_cases hline : lineStart = true ∧ IsMistaken (c :: rest)
    · -- the line does not end in front of the directive
      obtain ⟨rfl, hline⟩ := hline
      have hcs : c :: rest = written before ++ written (.plain '#' :: behind) := by
        rw [← written_append, ← hpieces, Rules.written_lexemes]
      have hend : '\n' ∉ written before := fun hmem =>
        hmistaken [] before rfl (by simpa using hstart rfl) hmem (hcs ▸ hline)
      have hsound : ∀ l ∈ before, l.IsSound := fun l hl =>
        Rules.isSound_of_mem_lexemes (hpieces ▸ List.mem_append_left _ hl)
      have hleft : '\n' ∉ scrubbed before := by
        have hcount := count_scrubbed hsound
        rw [List.count_eq_zero.2 hend] at hcount
        exact List.count_eq_zero.1 (by omega)
      rw [scrubbed_append] at hindented
      exact exists_lexemes_of_mistaken hline hpieces (hindented.isBlank hleft)
    · rw [not_and] at hline
      rw [Rules.lexemes_cons] at hpieces ⊢
      rcases append_eq_append_cons hpieces with ⟨more, rfl, hmore⟩ | ⟨more, hmore, rfl⟩
      · -- the `#` comes later: both readings take this step
        have hsteps : joinsLines = false →
            joinedLines (Rules.ofScrubbing.step lineStart c rest).1 = 0 := fun h => by
          have hzero := hjoined h
          rw [joinedLines_append] at hzero
          omega
        have hnext : (c == '\n') = true →
            StartsLine (written (done ++ (Rules.ofScrubbing.step lineStart c rest).1)) := by
          intro hc d hd
          rw [beq_iff_eq.1 hc, Rules.step_lineFeed] at hd
          simpa [Lexeme.written, eq_comm] using hd
        rw [Rules.step_standing hline hsteps]
        obtain ⟨front, others, hfront, hwritten⟩ := ih hmore hnext
          (by rwa [List.append_assoc])
          (fun h => by
            have hzero := hjoined h
            rw [joinedLines_append] at hzero
            omega)
          (fun first second hsplit hfirst => hmistaken _ second
            (by rw [hsplit, List.append_assoc]) (by rwa [← List.append_assoc]))
        exact ⟨_ ++ front, others, by rw [hfront, List.append_assoc], by
          rw [written_append, written_append, hwritten]⟩
      · -- the `#` is in this step, so no literal is
        have hmem : Lexeme.plain '#' ∈ (Rules.ofScrubbing.step lineStart c rest).1 := by
          rw [hmore]
          exact List.mem_append_right _ List.mem_cons_self
        rw [Rules.step_standing hline fun _ => Rules.joinedLines_step_of_mem _ hmem, hmore]
        exact ⟨before, _, by rw [List.append_assoc, List.cons_append], rfl⟩

/-- The `#` of every directive that an include is reported for is outside of the comments and the
    literals of the source, unless a line in front is mistaken. If no literal may go on over a line
    feed, this is said of the sources where none does so in front of the directive. -/
theorem outside_unless_mistaken (text : String) :
    ∀ i ∈ includes text, ∃ before between mark behind, Reports text i before between mark behind ∧
      ∀ joinsLines, (joinsLines = false → joinedLines before = 0) →
        Unmistaken [] before (written (.plain '#' :: (between ++ .plain mark :: behind))) →
        ∃ front others,
          (Rules.standing joinsLines).lexemes true text.toList = front ++ .plain '#' :: others ∧
          written front = written before := by
  intro i hi
  obtain ⟨before, between, mark, behind, hreports, -⟩ := exists_reports_of_mem_includes hi
  have hstart : true = true → StartsLine (written []) := fun _ => startsLine_nil
  exact ⟨before, between, mark, behind, hreports, fun _ hjoined hmistaken =>
    exists_lexemes_standing hreports.pieces hstart hreports.indented hjoined hmistaken⟩

/-- Text that looks like directives, in a comment and in a literal, in front of two directives. -/
private def plainSource : String :=
  "/* #include <a> */ char *s = \"#include <b>\";\n/* one */ #include \"it's.h\"\n#include <c.h>\n"

/-- The last directive of this source is outside of comments and literals. -/
theorem outside_unless_mistaken_plainSource :
    (⟨"c.h", 3⟩ : Include) ∈ includes plainSource ∧
    ∃ before between mark behind, Reports plainSource ⟨"c.h", 3⟩ before between mark behind ∧
      ∃ front others, (Rules.standing false).lexemes true plainSource.toList =
        front ++ .plain '#' :: others ∧ written front = written before := by
  have hmem : (⟨"c.h", 3⟩ : Include) ∈ includes plainSource := by decide +kernel
  have hjoined : joinedLines (Rules.ofScrubbing.lexemes true plainSource.toList) = 0 := by
    decide +kernel
  have hnone : ∀ cs ∈ plainSource.toList.tails, ¬ IsMistaken cs := by decide +kernel
  obtain ⟨before, between, mark, behind, hreports, houtside⟩ :=
    outside_unless_mistaken plainSource _ hmem
  refine ⟨hmem, before, between, mark, behind, hreports, houtside false ?_ ?_⟩
  · intro _
    rw [hreports.pieces, joinedLines_append] at hjoined
    omega
  · intro first second hsplit _ _
    refine hnone _ ((List.mem_tails _ _).2 ⟨written first, ?_⟩)
    rw [← List.append_assoc, ← written_append, ← hsplit, ← written_append, ← hreports.pieces,
      Rules.written_lexemes]

/-- Of a line that is mistaken for a directive, the header name is kept with the quote in it. The
next quote opens a literal then, and the mark that opens a comment is in it. -/
private def mistakenSource : String :=
  "/**/x/**/#include <'>' /*'\n#include <y>\n*/\n"

/-- The include that is reported for this source stands in a comment, whether literals may go on
    over line feeds or not. -/
theorem comment_reported :
    includes mistakenSource = [⟨"y", 2⟩] ∧
    (Rules.standing true).lexemes true mistakenSource.toList =
      [.comment [], .plain 'x', .comment []] ++ "#include <".toList.map .plain ++
        [.literal '\'' ['>'], .plain ' ', .comment "'\n#include <y>\n".toList, .plain '\n'] ∧
    (Rules.standing false).lexemes true mistakenSource.toList =
      (Rules.standing true).lexemes true mistakenSource.toList := by
  decide +kernel

end MakeAtlas.Source
