import MakeAtlas.Proofs.ListSplits
import MakeAtlas.Proofs.Source.Skipping

/-!
# What a source is made of

A text is read from left to right as comments, literals and characters that belong to neither. At
the start of a line a directive is looked for first; the comments in front of it are comments, and
its header name is no literal, whatever is in it.

Rules say what counts as a directive there, and whether a literal goes on over a line feed behind a
backslash. By the rules of scrubbing, each piece of the text leaves a piece of the scrubbed text.

## Key results

- `written_lexemes`: nothing of the text is lost, and nothing is added
- `scrubbed_lexemes`: what the pieces leave is the scrubbed text
- `count_scrubbed`: how many line feeds they leave
- `exists_plain_of_scrubbed_eq`: what is left outside comments and literals was outside
-/

namespace MakeAtlas.Source

open MakeAtlas.Text

/-- A piece of a source. -/
inductive Lexeme where
  /-- A block comment, without its marks. -/
  | comment (body : List Char)
  /-- A block comment in front of a directive. -/
  | lead (body : List Char)
  /-- A comment up to the end of its line. -/
  | lineComment (body : List Char)
  /-- A literal, without its quotes. -/
  | literal (quote : Char) (body : List Char)
  /-- A character outside comments and literals. -/
  | plain (c : Char)
  deriving DecidableEq, Repr

namespace Lexeme

/-- A piece as it is written. -/
def written : Lexeme → List Char
  | comment body => '/' :: '*' :: (body ++ ['*', '/'])
  | lead body => '/' :: '*' :: (body ++ ['*', '/'])
  | lineComment body => '/' :: '/' :: body
  | literal quote body => quote :: (body ++ [quote])
  | plain c => [c]

/-- What scrubbing leaves of a piece. -/
def scrubbed : Lexeme → List Char
  | comment body => List.replicate (body.count '\n') '\n'
  | lead _ => [' ']
  | lineComment _ => []
  | literal quote _ => [quote, quote]
  | plain c => [c]

/-- The line feeds in a literal. -/
def joinedLines : Lexeme → Nat
  | literal _ body => body.count '\n'
  | _ => 0

/-- Literals have quotes, and what has to be closed on its line is. -/
def IsSound : Lexeme → Prop
  | lead body => '\n' ∉ body
  | lineComment body => '\n' ∉ body
  | literal quote _ => quote = '"' ∨ quote = '\''
  | _ => True

end Lexeme

/-- Pieces as they are written. -/
def written (ls : List Lexeme) : List Char :=
  ls.flatMap Lexeme.written

/-- What scrubbing leaves of pieces. -/
def scrubbed (ls : List Lexeme) : List Char :=
  ls.flatMap Lexeme.scrubbed

/-- The line feeds in literals. -/
def joinedLines : List Lexeme → Nat
  | [] => 0
  | l :: ls => l.joinedLines + joinedLines ls

section

variable (first second : List Lexeme) (l : Lexeme)

@[simp] theorem written_nil : written [] = [] := rfl

@[simp] theorem scrubbed_nil : scrubbed [] = [] := rfl

@[simp] theorem joinedLines_nil : joinedLines [] = 0 := rfl

@[simp] theorem written_cons : written (l :: second) = l.written ++ written second := rfl

@[simp] theorem scrubbed_cons : scrubbed (l :: second) = l.scrubbed ++ scrubbed second := rfl

@[simp] theorem joinedLines_cons : joinedLines (l :: second) = l.joinedLines + joinedLines second :=
  rfl

@[simp] theorem written_append : written (first ++ second) = written first ++ written second :=
  List.flatMap_append

@[simp] theorem scrubbed_append : scrubbed (first ++ second) = scrubbed first ++ scrubbed second :=
  List.flatMap_append

@[simp] theorem joinedLines_append :
    joinedLines (first ++ second) = joinedLines first + joinedLines second := by
  induction first with
  | nil => exact (Nat.zero_add _).symm
  | cons l first ih => rw [List.cons_append, joinedLines_cons, joinedLines_cons, ih, Nat.add_assoc]

end

/-! ## Reading -/

/-- What is said about how a text is read. -/
structure Rules where
  /-- Whether a literal goes on over a line feed behind a backslash. -/
  joinsLines : Bool
  /-- What follows the directive that a line starts with. -/
  directive? : List Char → Option (List Char)
  length_directive?_lt {cs behind : List Char} (h : directive? cs = some behind) :
    behind.length < cs.length
  reachesInLine {cs behind : List Char} (h : directive? cs = some behind) :
    ReachesInLine cs behind

/-- The rules of scrubbing. -/
def Rules.ofScrubbing : Rules where
  joinsLines := true
  directive? := skipCommented?
  length_directive?_lt := length_skipCommented?_lt
  reachesInLine h := (reachesMark_of_skipCommented? h).reachesInLine

/-- The rules by which a directive stands at the start of its line. -/
def Rules.standing (joinsLines : Bool) : Rules where
  joinsLines := joinsLines
  directive? := skipStanding?
  length_directive?_lt := length_skipStanding?_lt
  reachesInLine h := (reachesMark_of_skipCommented? (skipCommented?_of_standing h)).reachesInLine

/-- Reads on to the next quote that no backslash takes with it: the text of a literal, and what
follows it. The literal ends on its line, unless it may go on over a line feed that a backslash
takes with it. -/
def literalBody? (joinsLines : Bool) (quote : Char) : List Char → Option (List Char × List Char)
  | [] => none
  | ['\\'] => none
  | '\\' :: c :: rest =>
    -- a quote behind a backslash closes nothing
    if c = '\n' ∧ joinsLines = false then none
    else (literalBody? joinsLines quote rest).map fun (body, behind) => ('\\' :: c :: body, behind)
  | c :: rest =>
    if c = quote then some ([], rest)
    else if c = '\n' then none
    else (literalBody? joinsLines quote rest).map fun (body, behind) => (c :: body, behind)

/-- The pieces of a directive and of what stands in front of it on its line. -/
def directiveLexemes (cs : List Char) : List Lexeme :=
  match cs with
  | [] => []
  | '/' :: '*' :: body =>
    match h : closeComment? body with
    | some (comment, behind) =>
      have := length_closeComment?_lt h
      .lead comment :: directiveLexemes behind
    | none => .plain '/' :: directiveLexemes ('*' :: body)
  | c :: rest => .plain c :: directiveLexemes rest
termination_by cs.length

/-- What a quote opens, and what remains: a literal or, without the closing quote, nothing. -/
def Rules.literalStep (rules : Rules) (quote : Char) (rest : List Char) :
    List Lexeme × List Char :=
  match literalBody? rules.joinsLines quote rest with
  | some (body, behind) => ([.literal quote body], behind)
  | none => ([.plain quote], rest)

/-- The piece at the front of a text where no directive is, and what remains. An opener without its
closer is a character like any other. -/
def Rules.pieceStep (rules : Rules) (c : Char) (rest : List Char) : List Lexeme × List Char :=
  match c, rest with
  | '/', '*' :: body =>
    match closeComment? body with
    | some (comment, behind) => ([.comment comment], behind)
    | none => ([.plain '/'], rest)
  -- a line comment ends before its line feed
  | '/', '/' :: body =>
    ([.lineComment (body.takeWhile (· != '\n'))], body.dropWhile (· != '\n'))
  | '"', rest => rules.literalStep '"' rest
  | '\'', rest => rules.literalStep '\'' rest
  | c, rest => ([.plain c], rest)

/-- One step of reading: the pieces at the front of a text, and what remains. At the start of a line
a directive is looked for first. -/
def Rules.step (rules : Rules) (lineStart : Bool) (c : Char) (rest : List Char) :
    List Lexeme × List Char :=
  match if lineStart then rules.directive? (c :: rest) else none with
  | some behind =>
    (directiveLexemes ((c :: rest).take ((c :: rest).length - behind.length)), behind)
  | none => rules.pieceStep c rest

theorem literalBody?_eq_some {joinsLines : Bool} {quote : Char} {cs body behind : List Char}
    (h : literalBody? joinsLines quote cs = some (body, behind)) :
    cs = body ++ quote :: behind := by
  fun_induction literalBody? joinsLines quote cs generalizing body with
  | case1 => cases h
  | case2 => cases h
  | case3 => cases h
  | case4 c rest _ ih =>
    simp only [Option.map_eq_some_iff, Prod.exists, Prod.mk.injEq] at h
    obtain ⟨inner, more, hinner, rfl, rfl⟩ := h
    rw [ih hinner]
    rfl
  | case5 rest =>
    cases h
    rfl
  | case6 => cases h
  | case7 c rest _ _ _ _ ih =>
    simp only [Option.map_eq_some_iff, Prod.exists, Prod.mk.injEq] at h
    obtain ⟨inner, more, hinner, rfl, rfl⟩ := h
    rw [ih hinner]
    rfl

/-- Where literals may go on over a line feed, they end as scrubbing says. -/
theorem map_snd_literalBody? (quote : Char) (cs : List Char) :
    (literalBody? true quote cs).map Prod.snd = closeLiteral? quote cs := by
  fun_induction closeLiteral? quote cs with
  | case1 => rfl
  | case2 => rfl
  | case3 c rest ih => simp [literalBody?, ← ih, Function.comp_def]
  | case4 rest => simp [literalBody?]
  | case5 _ _ _ hquote => simp [literalBody?, hquote]
  | case6 c rest _ _ hquote hline ih =>
    simp [literalBody?, hquote, hline, ← ih, Function.comp_def]

/-! ## One step -/

theorem written_directiveLexemes (cs : List Char) : written (directiveLexemes cs) = cs := by
  fun_induction directiveLexemes cs with
  | case1 => rfl
  | case2 body comment behind hclose _ ih =>
    obtain ⟨rfl, -⟩ := closeComment?_eq_some_iff.1 hclose
    simp [Lexeme.written, ih]
  | case3 body _ ih => simp [Lexeme.written, ih]
  | case4 c rest _ ih => simp [Lexeme.written, ih]

theorem scrubbed_directiveLexemes (cs : List Char) :
    scrubbed (directiveLexemes cs) = spaceComments cs := by
  fun_induction directiveLexemes cs with
  | case1 => simp [spaceComments]
  | case2 body comment behind hclose _ ih =>
    rw [scrubbed_cons, ih, spaceComments_of_closed hclose]
    rfl
  | case3 body hclose ih =>
    rw [scrubbed_cons, ih, spaceComments_of_open hclose]
    rfl
  | case4 c rest hc ih =>
    rw [scrubbed_cons, ih, spaceComments_cons]
    · rfl
    · intro hslash hhead
      obtain ⟨body, hbody⟩ := List.head?_eq_some_iff.1 hhead
      exact hc body hslash hbody

namespace Rules

variable {rules : Rules} {lineStart : Bool} {c : Char} {rest : List Char}

/-- The directive at the start of a line is the front of it. -/
theorem take_append_of_directive? {cs behind : List Char} (h : rules.directive? cs = some behind) :
    cs.take (cs.length - behind.length) ++ behind = cs ∧
      '\n' ∉ cs.take (cs.length - behind.length) := by
  obtain ⟨taken, rfl, htaken⟩ := rules.reachesInLine h
  rw [take_length_sub]
  exact ⟨rfl, htaken⟩

theorem written_literalStep (rules : Rules) (quote : Char) (rest : List Char) :
    written (rules.literalStep quote rest).1 ++ (rules.literalStep quote rest).2 =
      quote :: rest := by
  unfold literalStep
  split
  · next hbody =>
    rw [literalBody?_eq_some hbody]
    simp [Lexeme.written]
  · rfl

theorem written_pieceStep (rules : Rules) (c : Char) (rest : List Char) :
    written (rules.pieceStep c rest).1 ++ (rules.pieceStep c rest).2 = c :: rest := by
  unfold pieceStep
  split
  · split
    · next hclose =>
      obtain ⟨rfl, -⟩ := closeComment?_eq_some_iff.1 hclose
      simp [Lexeme.written]
    · rfl
  · simp [Lexeme.written]
  · exact written_literalStep rules _ _
  · exact written_literalStep rules _ _
  · rfl

theorem written_step (rules : Rules) (lineStart : Bool) (c : Char) (rest : List Char) :
    written (rules.step lineStart c rest).1 ++ (rules.step lineStart c rest).2 = c :: rest := by
  unfold step
  split
  · next behind h =>
    split at h
    · rw [written_directiveLexemes]
      exact (take_append_of_directive? h).1
    · cases h
  · exact written_pieceStep rules c rest

theorem length_literalStep_le (rules : Rules) (quote : Char) (rest : List Char) :
    (rules.literalStep quote rest).2.length ≤ rest.length := by
  unfold literalStep
  split
  · next hbody =>
    rw [literalBody?_eq_some hbody, List.length_append, List.length_cons]
    dsimp only
    omega
  · exact Nat.le_refl _

theorem length_step_le (rules : Rules) (lineStart : Bool) (c : Char) (rest : List Char) :
    (rules.step lineStart c rest).2.length ≤ rest.length := by
  unfold step
  split
  · next behind h =>
    split at h
    · exact Nat.le_of_lt_succ (rules.length_directive?_lt h)
    · cases h
  · unfold pieceStep
    split
    · split
      · next hclose => exact Nat.le_succ_of_le (Nat.le_of_lt (length_closeComment?_lt hclose))
      · exact Nat.le_refl _
    · exact Nat.le_succ_of_le (List.dropWhile_suffix _).length_le
    · exact length_literalStep_le rules _ _
    · exact length_literalStep_le rules _ _
    · exact Nat.le_refl _

/-- A line feed is read alone. -/
theorem step_lineFeed (rules : Rules) (lineStart : Bool) (rest : List Char) :
    rules.step lineStart '\n' rest = ([.plain '\n'], rest) := by
  unfold step
  split
  · next behind hdirective =>
    split at hdirective
    · -- a directive is a part of its line, and this line has no character
      obtain ⟨taken, htaken, hline⟩ := rules.reachesInLine hdirective
      have hshorter := rules.length_directive?_lt hdirective
      cases taken with
      | nil =>
        rw [htaken] at hshorter
        exact absurd hshorter (Nat.lt_irrefl _)
      | cons d taken =>
        cases htaken
        exact absurd List.mem_cons_self hline
    · cases hdirective
  · rfl

/-- A character that opens nothing is a piece of its own. -/
theorem pieceStep_of_not_mem (rules : Rules) (h : c ∉ ['/', '"', '\'']) :
    rules.pieceStep c rest = ([.plain c], rest) := by
  simp only [List.mem_cons, List.not_mem_nil, or_false, not_or] at h
  unfold pieceStep
  split
  · exact absurd rfl h.1
  · exact absurd rfl h.1
  · exact absurd rfl h.2.1
  · exact absurd rfl h.2.2
  · rfl

private theorem map_literalStep (quote : Char) (rest : List Char) :
    (ofScrubbing.literalStep quote rest).map scrubbed id =
      match closeLiteral? quote rest with
      | some behind => ([quote, quote], behind)
      | none => ([quote], rest) := by
  have hjoins : ofScrubbing.joinsLines = true := rfl
  rw [← map_snd_literalBody?, literalStep, hjoins]
  cases literalBody? true quote rest <;> rfl

private theorem map_pieceStep (c : Char) (rest : List Char) :
    (ofScrubbing.pieceStep c rest).map scrubbed id = scrubStep false c rest := by
  unfold pieceStep
  split
  · next body =>
    show Prod.map scrubbed id _ = match closeComment? body with
      | some (comment, behind) => _
      | none => _
    cases closeComment? body <;> simp [Lexeme.scrubbed]
  · rfl
  · exact map_literalStep _ _
  · exact map_literalStep _ _
  · -- no other branch takes the character
    unfold scrubStep
    simp only [if_neg Bool.false_ne_true]
    rfl

/-- A step of reading by the rules of scrubbing is a step of scrubbing. -/
theorem map_step (lineStart : Bool) (c : Char) (rest : List Char) :
    (ofScrubbing.step lineStart c rest).map scrubbed id = scrubStep lineStart c rest := by
  have hdirective : ofScrubbing.directive? = skipCommented? := rfl
  unfold step
  rw [hdirective]
  cases h : (if lineStart then skipCommented? (c :: rest) else none) with
  | some behind =>
    unfold scrubStep
    rw [h]
    simp [scrubbed_directiveLexemes]
  | none =>
    have hnone : scrubStep lineStart c rest = scrubStep false c rest := by
      unfold scrubStep
      rw [h]
      rfl
    rw [hnone]
    exact map_pieceStep c rest

/-- What a text is made of, from a place on which may be the start of a line. -/
def lexemes (rules : Rules) (lineStart : Bool) : List Char → List Lexeme
  | [] => []
  | c :: rest =>
    have := length_step_le rules lineStart c rest
    (rules.step lineStart c rest).1 ++ rules.lexemes (c == '\n') (rules.step lineStart c rest).2
termination_by cs => cs.length

theorem lexemes_cons (rules : Rules) (lineStart : Bool) (c : Char) (rest : List Char) :
    rules.lexemes lineStart (c :: rest) =
      (rules.step lineStart c rest).1 ++
        rules.lexemes (c == '\n') (rules.step lineStart c rest).2 := by
  rw [lexemes]

/-- Where no directive starts, a piece of the source is read. -/
theorem lexemes_of_pieceStep {rules : Rules} {ls : List Lexeme} {behind : List Char}
    (hnone : lineStart = true → rules.directive? (c :: rest) = none)
    (h : rules.pieceStep c rest = (ls, behind)) :
    rules.lexemes lineStart (c :: rest) = ls ++ rules.lexemes (c == '\n') behind := by
  have hstep : rules.step lineStart c rest = (ls, behind) := by
    unfold step
    split
    · next hdirective =>
      split at hdirective
      · next hstart =>
        rw [hnone hstart] at hdirective
        cases hdirective
      · cases hdirective
    · exact h
  rw [lexemes_cons, hstep]

/-- Where no directive is, it does not matter whether a line starts. -/
theorem lexemes_of_directive?_eq_none {rules : Rules} {cs : List Char}
    (h : rules.directive? cs = none) : rules.lexemes true cs = rules.lexemes false cs := by
  cases cs with
  | nil => simp [lexemes]
  | cons c rest =>
    have hstep : rules.step true c rest = rules.step false c rest := by
      unfold step
      rw [if_pos rfl, h]
      rfl
    rw [lexemes_cons, lexemes_cons, hstep]

/-- A directive at the start of a line is read as a whole. -/
theorem lexemes_of_directive? {rules : Rules} {taken behind : List Char}
    (h : rules.directive? (taken ++ behind) = some behind) :
    rules.lexemes true (taken ++ behind) =
      directiveLexemes taken ++ rules.lexemes false behind := by
  have htake := take_length_sub taken behind
  have hline := (take_append_of_directive? h).2
  rw [htake] at hline
  cases taken with
  | nil => exact absurd (rules.length_directive?_lt h) (Nat.lt_irrefl _)
  | cons c taken =>
    -- what is behind the directive is on the same line
    have hstep : rules.step true c (taken ++ behind) = (directiveLexemes (c :: taken), behind) := by
      rw [List.cons_append] at h htake
      unfold step
      rw [if_pos rfl, h]
      dsimp only
      rw [htake]
    have hc : (c == '\n') = false := by
      rw [beq_eq_false_iff_ne]
      rintro rfl
      exact hline List.mem_cons_self
    rw [List.cons_append, lexemes_cons, hstep, hc]

/-- Nothing of a text is lost, and nothing is added. -/
theorem written_lexemes (rules : Rules) (lineStart : Bool) (cs : List Char) :
    written (rules.lexemes lineStart cs) = cs := by
  fun_induction lexemes rules lineStart cs with
  | case1 => rfl
  | case2 lineStart c rest _ ih => rw [written_append, ih, written_step]

/-- What the pieces of a text leave is the scrubbed text. -/
theorem scrubbed_lexemes (lineStart : Bool) (cs : List Char) :
    scrubbed (ofScrubbing.lexemes lineStart cs) = scrubFrom lineStart cs := by
  fun_induction lexemes ofScrubbing lineStart cs with
  | case1 => simp [scrubFrom]
  | case2 lineStart c rest _ ih =>
    rw [scrubbed_append, ih, scrubFrom, ← map_step]
    rfl

/-! ## What the pieces are -/

/-- The comments in front of a directive are closed on its line. -/
theorem isSound_of_mem_directiveLexemes {cs : List Char} (hline : '\n' ∉ cs) {l : Lexeme}
    (h : l ∈ directiveLexemes cs) : l.IsSound := by
  fun_induction directiveLexemes cs with
  | case1 => cases h
  | case2 body comment behind hclose _ ih =>
    obtain ⟨rfl, -⟩ := closeComment?_eq_some_iff.1 hclose
    simp only [List.mem_cons, List.mem_append, not_or] at hline
    rcases List.mem_cons.1 h with rfl | h
    · exact hline.2.2.1
    · exact ih hline.2.2.2.2.2 h
  | case3 body _ ih =>
    rcases List.mem_cons.1 h with rfl | h
    · exact trivial
    · exact ih (fun hmem => hline (List.mem_cons_of_mem _ hmem)) h
  | case4 c rest _ ih =>
    rcases List.mem_cons.1 h with rfl | h
    · exact trivial
    · exact ih (fun hmem => hline (List.mem_cons_of_mem _ hmem)) h

/-- Where no directive is, one piece is read. -/
theorem exists_pieceStep (rules : Rules) (c : Char) (rest : List Char) :
    ∃ l : Lexeme, (rules.pieceStep c rest).1 = [l] ∧ l.IsSound := by
  have hliteral : ∀ quote body, quote = '"' ∨ quote = '\'' →
      ∃ l : Lexeme, (rules.literalStep quote body).1 = [l] ∧ l.IsSound := by
    intro quote body hquote
    unfold literalStep
    split
    · exact ⟨_, rfl, hquote⟩
    · exact ⟨_, rfl, trivial⟩
  unfold pieceStep
  split
  · split
    · exact ⟨_, rfl, trivial⟩
    · exact ⟨_, rfl, trivial⟩
  · refine ⟨_, rfl, fun hmem => ?_⟩
    have hline := List.mem_takeWhile_imp hmem
    exact absurd hline (by decide)
  · exact hliteral _ _ (Or.inl rfl)
  · exact hliteral _ _ (Or.inr rfl)
  · exact ⟨_, rfl, trivial⟩

theorem isSound_of_mem_step {l : Lexeme} (h : l ∈ (rules.step lineStart c rest).1) :
    l.IsSound := by
  unfold step at h
  split at h
  · next behind hdirective =>
    split at hdirective
    · exact isSound_of_mem_directiveLexemes (take_append_of_directive? hdirective).2 h
    · cases hdirective
  · obtain ⟨piece, hpiece, hsound⟩ := exists_pieceStep rules c rest
    rw [hpiece, List.mem_singleton] at h
    rwa [h]

theorem isSound_of_mem_lexemes {cs : List Char} {l : Lexeme}
    (h : l ∈ rules.lexemes lineStart cs) : l.IsSound := by
  fun_induction lexemes rules lineStart cs with
  | case1 => cases h
  | case2 lineStart c rest _ ih =>
    rcases List.mem_append.1 h with h | h
    · exact isSound_of_mem_step h
    · exact ih h

end Rules

namespace Lexeme

/-- A piece leaves its line feeds, except those in a literal. -/
theorem count_scrubbed {l : Lexeme} (h : l.IsSound) :
    l.scrubbed.count '\n' + l.joinedLines = l.written.count '\n' := by
  cases l with
  | comment body => simp [scrubbed, joinedLines, written]
  | lead body =>
    -- a comment in front of a directive has no line feed to leave
    have hbody : body.count '\n' = 0 := List.count_eq_zero.2 h
    simp [scrubbed, joinedLines, written, hbody]
  | lineComment body =>
    have hbody : body.count '\n' = 0 := List.count_eq_zero.2 h
    simp [scrubbed, joinedLines, written, hbody]
  | literal quote body => rcases h with rfl | rfl <;> simp [scrubbed, joinedLines, written]
  | plain c => simp [scrubbed, joinedLines, written]

/-- A character that a piece leaves is outside comments and literals, or a line feed or a space of a
    comment, or a quote of a literal. -/
theorem mem_scrubbed {l : Lexeme} {c : Char} (h : c ∈ l.scrubbed) :
    l = .plain c ∨ c = '\n' ∨ c = ' ' ∨ ∃ body, l = .literal c body := by
  cases l with
  | comment body => exact Or.inr (Or.inl (List.eq_of_mem_replicate h))
  | lead body => exact Or.inr (Or.inr (Or.inl (List.mem_singleton.1 h)))
  | lineComment body => cases h
  | literal quote body =>
    have hc : c = quote := by simpa [scrubbed] using h
    exact Or.inr (Or.inr (Or.inr ⟨body, by rw [hc]⟩))
  | plain d => exact Or.inl (by rw [List.mem_singleton.1 h])

end Lexeme

/-- Pieces leave their line feeds, except those in literals. -/
theorem count_scrubbed {ls : List Lexeme} (h : ∀ l ∈ ls, l.IsSound) :
    (scrubbed ls).count '\n' + joinedLines ls = (written ls).count '\n' := by
  induction ls with
  | nil => rfl
  | cons l ls ih =>
    have hfirst := Lexeme.count_scrubbed (h l List.mem_cons_self)
    have hrest := ih fun k hk => h k (List.mem_cons_of_mem _ hk)
    rw [scrubbed_cons, joinedLines_cons, written_cons, List.count_append, List.count_append]
    omega

/-- Where a character that pieces leave comes from: the piece, and what it leaves on either side of
    the character. -/
theorem exists_piece_of_scrubbed_eq {ls : List Lexeme} {front rest : List Char} {c : Char}
    (h : scrubbed ls = front ++ c :: rest) :
    ∃ before l behind left right, ls = before ++ l :: behind ∧ l.scrubbed = left ++ c :: right ∧
      front = scrubbed before ++ left ∧ rest = right ++ scrubbed behind := by
  induction ls generalizing front with
  | nil => simp at h
  | cons l ls ih =>
    rcases append_eq_append_cons h with ⟨more, rfl, hmore⟩ | ⟨more, hl, rfl⟩
    · obtain ⟨before, l', behind, left, right, rfl, hl', rfl, rfl⟩ := ih hmore
      exact ⟨l :: before, l', behind, left, right, rfl, hl', by simp, rfl⟩
    · exact ⟨[], l, ls, front, more, rfl, hl, rfl, rfl⟩

/-- A character that is left comes from no comment and no literal, if it is neither a blank nor one
    of two quotes behind each other. -/
theorem exists_plain_of_scrubbed_eq {ls : List Lexeme} (hsound : ∀ l ∈ ls, l.IsSound)
    {front rest : List Char} {c : Char} (hblank : isBlank c = false)
    (hquote : c = '"' ∨ c = '\'' → c ∉ front.getLast? ∧ c ∉ rest.head?)
    (h : scrubbed ls = front ++ c :: rest) :
    ∃ before behind, ls = before ++ .plain c :: behind ∧ scrubbed before = front ∧
      scrubbed behind = rest := by
  obtain ⟨before, l, behind, left, right, rfl, hl, rfl, rfl⟩ := exists_piece_of_scrubbed_eq h
  have hmem : c ∈ l.scrubbed := by
    rw [hl]
    exact List.mem_append_right _ List.mem_cons_self
  rcases Lexeme.mem_scrubbed hmem with rfl | rfl | rfl | ⟨body, rfl⟩
  · -- a character of its own is all that its piece leaves
    cases left with
    | nil =>
      cases hl
      exact ⟨before, behind, rfl, by simp, rfl⟩
    | cons d left => cases left <;> cases hl
  · exact absurd hblank (by decide)
  · exact absurd hblank (by decide)
  · -- one of the two quotes of a literal has the other one beside it
    obtain ⟨hfront, hrest⟩ := hquote (hsound _ (List.mem_append_right _ List.mem_cons_self))
    cases left with
    | nil =>
      cases hl
      exact absurd rfl hrest
    | cons d left =>
      cases left with
      | nil =>
        cases hl
        exact absurd List.getLast?_concat hfront
      | cons e left => cases left <;> cases hl

end MakeAtlas.Source
