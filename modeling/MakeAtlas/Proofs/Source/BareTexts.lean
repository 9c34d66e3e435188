import MakeAtlas.Proofs.Source.Outside
import MakeAtlas.Proofs.Source.Printed

/-!
# Bare texts

A text is bare if it has no comments, and no literals except for the header names of directives.
Scrubbing leaves it as it is, and so it leaves each of its lines: a directive that stands at the
start of a line is found whatever follows the line.

## Key results

- `ReadsLine.skipStanding?`: whether a directive stands on a line is up to the line alone
- `IsBare.scrubFrom_eq`: a bare text is its own scrubbed text
- `IsBare.of_append`: the lines of a bare text are bare
-/

namespace MakeAtlas.Source

open MakeAtlas.Text

/-! ## What is read on one line -/

/-- A part of the first line is read, and what follows that line does not matter. -/
structure ReadsLine (read? : List Char → Option (List Char)) : Prop where
  reaches {cs behind : List Char} : read? cs = some behind → ReachesInLine cs behind
  append {line : List Char} (h : '\n' ∉ line) (rest : List Char) :
    read? (line ++ '\n' :: rest) = (read? line).map (· ++ '\n' :: rest)

namespace ReadsLine

variable {read? next? : List Char → Option (List Char)}

/-- What is read is a part of the first line if it is told by its own characters. -/
theorem of_taken {P : List Char → Prop} (hline : ∀ taken, P taken → '\n' ∉ taken)
    (h : ∀ cs behind, read? cs = some behind ↔ ∃ taken, cs = taken ++ behind ∧ P taken) :
    ReadsLine read? where
  reaches hread := by
    obtain ⟨taken, hcs, htaken⟩ := (h _ _).1 hread
    exact ⟨taken, hcs, hline taken htaken⟩
  append {line} _ rest := by
    rw [Option.ext_iff]
    intro behind
    rw [h, Option.map_eq_some_iff]
    constructor
    · rintro ⟨taken, hcs, htaken⟩
      -- the end of the line is not taken, so all that is taken is on the line
      rcases append_eq_append_cons hcs.symm with ⟨more, rfl, rfl⟩ | ⟨more, rfl, -⟩
      · exact ⟨more, (h _ _).2 ⟨taken, rfl, htaken⟩, rfl⟩
      · exact absurd (by simp) (hline _ htaken)
    · rintro ⟨behind, hread, rfl⟩
      obtain ⟨taken, rfl, htaken⟩ := (h _ _).1 hread
      exact ⟨taken, List.append_assoc _ _ _, htaken⟩

/-- One part after the other is read. -/
theorem bind (hread : ReadsLine read?) (hnext : ReadsLine next?) :
    ReadsLine fun cs => (read? cs).bind next? where
  reaches h := by
    obtain ⟨behind, hbehind, h⟩ := Option.bind_eq_some_iff.1 h
    exact (hread.reaches hbehind).trans (hnext.reaches h)
  append {line} hline rest := by
    show (read? (line ++ '\n' :: rest)).bind next? = _
    rw [hread.append hline]
    cases hbehind : read? line with
    | none => rfl
    | some behind => exact hnext.append ((hread.reaches hbehind).not_mem hline) rest

theorem skipInline_append (line rest : List Char) :
    skipInline (line ++ '\n' :: rest) = skipInline line ++ '\n' :: rest := by
  have hend : skipInline ('\n' :: rest) = '\n' :: rest := List.dropWhile_cons_of_neg (by decide)
  rw [skipInline, List.dropWhile_append, ← skipInline]
  split
  · next hnone =>
    rw [List.isEmpty_iff.1 hnone]
    exact hend
  · rfl

theorem skipInline : ReadsLine fun cs => some (skipInline cs) where
  reaches h := by
    cases h
    exact reachesInLine_skipInline _
  append {line} _ rest := congrArg some (skipInline_append line rest)

theorem after? {start : List Char} (h : '\n' ∉ start) : ReadsLine (after? start) :=
  of_taken (P := (· = start)) (fun _ htaken => htaken ▸ h) fun cs behind => by
    rw [after?_eq_some_iff]
    exact ⟨fun hcs => ⟨start, hcs, rfl⟩, fun ⟨_, hcs, htaken⟩ => htaken ▸ hcs⟩

theorem cutInLine? {mark : Char} (h : mark ≠ '\n') :
    ReadsLine fun cs => (cutInLine? mark cs).map Prod.snd :=
  of_taken (P := fun taken => ∃ before, taken = before ++ [mark] ∧ mark ∉ before ∧ '\n' ∉ before)
    (by
      rintro _ ⟨before, rfl, -, hline⟩
      simp [hline, Ne.symm h])
    fun cs behind => by
      simp only [Option.map_eq_some_iff, Prod.exists, cutInLine?_eq_some_iff]
      constructor
      · rintro ⟨before, _, ⟨rfl, hbefore⟩, rfl⟩
        exact ⟨before ++ [mark], by simp, before, rfl, hbefore⟩
      · rintro ⟨_, rfl, before, rfl, hbefore⟩
        exact ⟨before, behind, ⟨by simp, hbefore⟩, rfl⟩

theorem skipHeaderName? : ReadsLine skipHeaderName? where
  reaches h := (reachesMark_of_skipHeaderName? h).reachesInLine
  append {line} hline rest := by
    cases line with
    | nil => rfl
    | cons c line =>
      rw [List.mem_cons, not_or] at hline
      rw [List.cons_append]
      by_cases hquote : c = '"'
      · subst hquote
        exact (cutInLine? (by decide)).append hline.2 rest
      · by_cases hangle : c = '<'
        · subst hangle
          exact (cutInLine? (by decide)).append hline.2 rest
        · simp [Source.skipHeaderName?, hquote, hangle]

theorem skipDirective? : ReadsLine skipDirective? :=
  (after? (by decide)).bind <| skipInline.bind <|
    (after? (by decide : '\n' ∉ "include".toList)).bind <| skipInline.bind skipHeaderName?

theorem closeInline? : ReadsLine closeInline? :=
  of_taken (P := fun taken => ∃ body, taken = body ++ closing ∧ ¬ closing <:+: body ∧ '\n' ∉ body)
    (by
      rintro _ ⟨body, rfl, -, hline⟩
      simp [hline, closing])
    fun cs behind => by
      rw [closeInline?_eq_some_iff]
      simp only [closeComment?_eq_some_iff]
      constructor
      · rintro ⟨body, ⟨rfl, hnone⟩, hline⟩
        exact ⟨body ++ closing, by simp [closing], body, rfl, hnone, hline⟩
      · rintro ⟨_, rfl, body, rfl, hnone, hline⟩
        exact ⟨body, ⟨by simp [closing], hnone⟩, hline⟩

/-- Whether a directive stands at the start of a line is up to the line alone. -/
theorem skipStanding? : ReadsLine skipStanding? where
  reaches h := (reachesMark_of_skipCommented? (skipCommented?_of_standing h)).reachesInLine
  append {line} hline rest := by
    -- Strong induction on the length: a comment is passed over before each further call
    induction hn : line.length using Nat.strongRecOn generalizing line with
    | ind n ih =>
      have hskip := (reachesInLine_skipInline line).not_mem hline
      rw [skipStanding?_eq, skipStanding?_eq line, skipInline_append,
        (after? (by decide : '\n' ∉ ['/', '*'])).append hskip]
      cases hafter : Text.after? ['/', '*'] (Source.skipInline line) with
      | none => exact skipDirective?.append hskip rest
      | some body =>
        have hbody := ((after? (by decide : '\n' ∉ ['/', '*'])).reaches hafter).not_mem hskip
        simp only [Option.map_some, closeInline?.append hbody]
        cases hclose : Source.closeInline? body with
        | none => rfl
        | some behind =>
          have hbehind := (closeInline?.reaches hclose).not_mem hbody
          exact ih behind.length (hn ▸ length_lt_of_closeInline? hafter hclose) hbehind rfl

end ReadsLine

/-! ## Texts without comments and literals -/

/-- No character of a text, which may be the start of a line, belongs to a comment or to a literal.
The header name of a directive that stands at the start of its line is no literal. -/
def IsBare (lineStart : Bool) (cs : List Char) : Prop :=
  (Rules.standing true).lexemes lineStart cs = plains cs

instance (lineStart : Bool) (cs : List Char) : Decidable (IsBare lineStart cs) :=
  inferInstanceAs (Decidable (_ = _))

/-- Where pieces that belong to no comment and no literal are divided. -/
theorem eq_plains_of_append {first second : List Lexeme} {taken behind : List Char}
    (h : first ++ second = plains (taken ++ behind)) (htaken : written first = taken) :
    first = plains taken ∧ second = plains behind := by
  obtain ⟨front, rest, hsplit, rfl, rfl⟩ := List.map_eq_append_iff.1 h.symm
  have hfront : front = taken := (written_plains front).symm.trans htaken
  subst hfront
  exact ⟨rfl, by rw [List.append_cancel_left hsplit]; rfl⟩

section

variable {lineStart : Bool} {c : Char} {cs rest : List Char}

theorem isBare_nil : IsBare lineStart [] :=
  Rules.lexemes.eq_1 _ _

/-- At the start of a line a directive is read first, and no part of it is a comment. -/
theorem isBare_directive_iff {taken behind : List Char}
    (h : skipStanding? (taken ++ behind) = some behind) :
    IsBare true (taken ++ behind) ↔
      directiveLexemes taken = plains taken ∧ IsBare false behind := by
  have hread : (Rules.standing true).lexemes true (taken ++ behind) =
      directiveLexemes taken ++ (Rules.standing true).lexemes false behind :=
    Rules.lexemes_of_directive? h
  rw [IsBare, hread]
  constructor
  · intro hbare
    exact eq_plains_of_append hbare (written_directiveLexemes taken)
  · rintro ⟨htaken, hbehind⟩
    rw [htaken, hbehind]
    exact List.map_append.symm

/-- Where no directive is read, a character is, and it opens no comment and no literal. -/
theorem isBare_cons_iff (hnone : lineStart = true → skipStanding? (c :: rest) = none) :
    IsBare lineStart (c :: rest) ↔
      (Rules.standing true).pieceStep c rest = ([.plain c], rest) ∧ IsBare (c == '\n') rest := by
  obtain ⟨ls, behind, hpiece⟩ : ∃ ls behind,
      (Rules.standing true).pieceStep c rest = (ls, behind) := ⟨_, _, rfl⟩
  have hread : (Rules.standing true).lexemes lineStart (c :: rest) =
      ls ++ (Rules.standing true).lexemes (c == '\n') behind :=
    Rules.lexemes_of_pieceStep hnone hpiece
  rw [IsBare, hread, hpiece]
  constructor
  · intro hbare
    obtain ⟨l, hl, -⟩ := (Rules.standing true).exists_pieceStep c rest
    have hwritten := (Rules.standing true).written_pieceStep c rest
    rw [hpiece] at hl hwritten
    -- one piece is read, and what is written of it is the first character
    obtain rfl : ls = [l] := hl
    obtain ⟨rfl, hrest⟩ := List.cons.inj hbare
    obtain rfl : behind = rest := List.tail_eq_of_cons_eq hwritten
    exact ⟨rfl, hrest⟩
  · rintro ⟨hls, hrest⟩
    cases hls
    exact congrArg (_ :: ·) hrest

theorem isBare_lineFeed_iff : IsBare lineStart ('\n' :: rest) ↔ IsBare true rest := by
  rw [IsBare, Rules.lexemes_lineFeed]
  exact ⟨List.tail_eq_of_cons_eq, congrArg (_ :: ·)⟩

/-! ## Scrubbing bare texts -/

/-- A comment on the line can only be passed over if it is closed. -/
theorem closeComment?_ne_none {body behind : List Char} (h : behind ∈ inlineClosings body) :
    closeComment? body ≠ none := by
  fun_induction inlineClosings body with
  | case1 => cases h
  | case2 => cases h
  | case3 rest => exact Option.some_ne_none _
  | case4 c rest _ hmark ih =>
    rw [closeComment?.eq_3 c rest hmark, ne_eq, Option.map_eq_none_iff]
    exact ih h

/-- A comment behind blanks is none of the characters of a bare text. -/
theorem not_isBare_comment {body comment behind : List Char}
    (hafter : after? opening (skipInline cs) = some body)
    (hclose : closeComment? body = some (comment, behind)) : ¬ IsBare false cs := by
  obtain ⟨rfl, hopen⟩ := closeComment?_eq_some_iff.1 hclose
  let blanks : Blanks := ⟨cs.takeWhile isInlineBlank, fun _ => List.mem_takeWhile_imp⟩
  have hcs : cs = blanks.chars ++ (written [.comment comment] ++ behind) := by
    have hskip : skipInline cs = written [.comment comment] ++ behind := by
      rw [after?_eq_some_iff.1 hafter]
      simp [Lexeme.written, opening]
    rw [← hskip]
    exact List.takeWhile_append_dropWhile.symm
  intro hbare
  have hmem : Lexeme.comment comment ∈ plains cs := by
    rw [← hbare, hcs, Rules.lexemes_blanks, Rules.lexemes_comment ⟨comment, hopen⟩]
    exact List.mem_append_right _ List.mem_cons_self
  obtain ⟨c, -, hc⟩ := List.mem_map.1 hmem
  cases hc

/-- No line of a bare text is mistaken for a directive: it would start with a comment. -/
theorem IsBare.not_isMistaken (h : IsBare true cs) : ¬ IsMistaken cs := by
  rintro ⟨hskipped, hnone⟩
  obtain ⟨behind, hskipped⟩ := Option.isSome_iff_exists.1 hskipped
  have hread : (Rules.standing true).lexemes true cs = (Rules.standing true).lexemes false cs :=
    Rules.lexemes_of_directive?_eq_none hnone
  rw [skipCommented?_eq] at hskipped
  rw [skipStanding?_eq] at hnone
  split at hskipped
  · -- without a comment in front, both look for the directive in the same place
    next hafter =>
    rw [hafter] at hnone
    cases hskipped.symm.trans hnone
  · next body hafter =>
    obtain ⟨more, hmore, -⟩ := List.exists_of_findSome?_eq_some hskipped
    obtain ⟨⟨comment, rest⟩, hclose⟩ := Option.ne_none_iff_exists'.1 (closeComment?_ne_none hmore)
    exact not_isBare_comment hafter hclose (hread.symm.trans h)

/-- By the rules of scrubbing, too, a bare text is read as its characters. -/
theorem IsBare.lexemes_ofScrubbing (h : IsBare lineStart cs) :
    Rules.ofScrubbing.lexemes lineStart cs = plains cs := by
  unfold IsBare at h
  fun_induction Rules.lexemes (Rules.standing true) lineStart cs with
  | case1 => exact Rules.lexemes.eq_1 _ _
  | case2 lineStart c rest _ ih =>
    -- literals may go on over line feeds by both rules, so only a mistaken line could differ
    have hstep : (Rules.standing true).step lineStart c rest =
        Rules.ofScrubbing.step lineStart c rest :=
      Rules.step_standing (fun hstart => by
        subst hstart
        exact IsBare.not_isMistaken ((Rules.lexemes_cons _ _ _ _).trans h))
        fun hjoins => absurd hjoins (by decide)
    have hwritten := (Rules.standing true).written_step lineStart c rest
    rw [← hwritten] at h
    obtain ⟨hfirst, hrest⟩ := eq_plains_of_append h rfl
    rw [Rules.lexemes_cons, ← hstep, ih hrest, hfirst, ← hwritten]
    exact List.map_append.symm

/-- Scrubbing leaves a bare text as it is. -/
theorem IsBare.scrubFrom_eq (h : IsBare lineStart cs) : scrubFrom lineStart cs = cs := by
  rw [← Rules.scrubbed_lexemes, h.lexemes_ofScrubbing, scrubbed_plains]

end

/-! ## The lines of bare texts -/

theorem literalBody?_cons {joinsLines : Bool} {quote c : Char} (hc : c ≠ '\\') (rest : List Char) :
    literalBody? joinsLines quote (c :: rest) =
      if c = quote then some ([], rest)
      else if c = '\n' then none
      else (literalBody? joinsLines quote rest).map fun (body, behind) => (c :: body, behind) :=
  literalBody?.eq_4 _ _ _ _ (fun h _ => hc h) (fun _ _ h _ => hc h)

/-- A literal that ends does so whatever is behind it. -/
theorem literalBody?_append {joinsLines : Bool} {quote : Char} {cs body behind : List Char}
    (h : literalBody? joinsLines quote cs = some (body, behind)) (more : List Char) :
    literalBody? joinsLines quote (cs ++ more) = some (body, behind ++ more) := by
  have hescape : ∀ {c : Char} {rest : List Char}, (c = '\\' → rest = [] → False) →
      (∀ d more, c = '\\' → rest = d :: more → False) → c ≠ '\\' := by
    intro c rest hend hmore hc
    cases rest with
    | nil => exact hend hc rfl
    | cons d rest => exact hmore d rest hc rfl
  fun_induction literalBody? joinsLines quote cs generalizing body with
  | case1 => cases h
  | case2 => cases h
  | case3 => cases h
  | case4 c rest hline ih =>
    simp only [Option.map_eq_some_iff, Prod.exists, Prod.mk.injEq] at h
    obtain ⟨inner, behind, hinner, rfl, rfl⟩ := h
    simp [literalBody?, hline, ih hinner]
  | case5 rest hend hmore =>
    cases h
    rw [List.cons_append, literalBody?_cons (hescape hend hmore), if_pos rfl]
  | case6 => cases h
  | case7 c rest hend hmore hquote hline ih =>
    simp only [Option.map_eq_some_iff, Prod.exists, Prod.mk.injEq] at h
    obtain ⟨inner, behind, hinner, rfl, rfl⟩ := h
    rw [List.cons_append, literalBody?_cons (hescape hend hmore), if_neg hquote, if_neg hline,
      ih hinner]
    rfl

namespace Rules

variable {rules : Rules} {c : Char} {cs more : List Char}

private theorem literalStep_of_append {quote : Char}
    (h : rules.literalStep quote (cs ++ more) = ([.plain quote], cs ++ more)) :
    rules.literalStep quote cs = ([.plain quote], cs) := by
  unfold literalStep at h ⊢
  cases hbody : literalBody? rules.joinsLines quote cs with
  | none => rfl
  | some found =>
    rw [literalBody?_append hbody] at h
    cases h

/-- A character that opens nothing in a text opens nothing in the front of it. -/
theorem pieceStep_of_append (h : rules.pieceStep c (cs ++ more) = ([.plain c], cs ++ more)) :
    rules.pieceStep c cs = ([.plain c], cs) := by
  unfold pieceStep at h ⊢
  split
  · next body =>
    cases hclose : closeComment? body with
    | none => rfl
    | some found =>
      simp only [List.cons_append, closeComment?_append hclose] at h
      cases h
  · cases h
  · exact literalStep_of_append h
  · exact literalStep_of_append h
  · rfl

end Rules

/-- The lines of a bare text are bare. -/
theorem IsBare.of_append {lineStart : Bool} {line rest : List Char} (hline : '\n' ∉ line)
    (h : IsBare lineStart (line ++ '\n' :: rest)) : IsBare lineStart line ∧ IsBare true rest := by
  -- Strong induction on the length: a directive is read as a whole
  induction hn : line.length using Nat.strongRecOn generalizing lineStart line with
  | ind n ih =>
    cases line with
    | nil => exact ⟨isBare_nil, isBare_lineFeed_iff.1 h⟩
    | cons c line =>
      have hlocal := ReadsLine.skipStanding?.append hline rest
      cases hdirective : if lineStart then skipStanding? (c :: line) else none with
      | some behind =>
        -- a directive of the whole text is one of the line, and the line goes on behind it
        obtain ⟨rfl, hfound⟩ : lineStart = true ∧ skipStanding? (c :: line) = some behind := by
          split at hdirective
          · next hstart => exact ⟨hstart, hdirective⟩
          · cases hdirective
        obtain ⟨taken, htaken, -⟩ := ReadsLine.skipStanding?.reaches hfound
        have hwhole : skipStanding? (taken ++ (behind ++ '\n' :: rest)) =
            some (behind ++ '\n' :: rest) := by
          rw [← List.append_assoc, ← htaken, hlocal, hfound]
          rfl
        rw [htaken, List.append_assoc] at h
        obtain ⟨hfirst, hbehind⟩ := (isBare_directive_iff hwhole).1 h
        obtain ⟨hsecond, hrest⟩ := ih behind.length (hn ▸ length_skipStanding?_lt hfound)
          (ReadsLine.skipStanding?.reaches hfound |>.not_mem hline) hbehind rfl
        rw [htaken] at hfound ⊢
        exact ⟨(isBare_directive_iff hfound).2 ⟨hfirst, hsecond⟩, hrest⟩
      | none =>
        -- what the first character does not open in the text it does not open on the line
        have hnone : lineStart = true → skipStanding? (c :: line) = none := by
          rintro rfl
          exact hdirective
        have hwhole : lineStart = true → skipStanding? (c :: (line ++ '\n' :: rest)) = none := by
          intro hstart
          rw [← List.cons_append, hlocal, hnone hstart]
          rfl
        obtain ⟨hpiece, hbehind⟩ := (isBare_cons_iff hwhole).1 h
        rw [List.mem_cons, not_or] at hline
        obtain ⟨hfirst, hrest⟩ := ih line.length (hn ▸ Nat.lt_succ_self _) hline.2 hbehind rfl
        exact ⟨(isBare_cons_iff hnone).2 ⟨Rules.pieceStep_of_append hpiece, hfirst⟩, hrest⟩

end MakeAtlas.Source
