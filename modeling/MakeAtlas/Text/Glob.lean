import MakeAtlas.Text.Blank

/-!
# Glob patterns

A pattern is a list of tokens: literal characters, `?`, `*` and bracketed classes. A star stands
for any text, slashes and line feeds included, so a pattern is matched against a whole text and
not step by step.

* A bracket that is never closed is an ordinary character. A closing bracket right after the
  opening one (or after its `!`) belongs to the class.
* In a class, `a-z` is a range. A range whose ends are the wrong way round has no members and takes
  both ends with it. A class that is left without members matches nothing, a negated one anything.
-/

namespace MakeAtlas.Text

/-- One element of a glob pattern. -/
inductive GlobToken where
  /-- This character. -/
  | literal (c : Char)
  /-- Any one character. -/
  | anyOne
  /-- Any text, the empty one included. -/
  | anyText
  /-- One character that lies in one of the ranges, or in none of them if `negated`. -/
  | oneOf (negated : Bool) (ranges : List (Char × Char))
  deriving DecidableEq, Repr

/-- A parsed glob pattern. -/
abbrev Glob := List GlobToken

namespace Glob

/-- The text of a class up to its closing bracket, and what follows the bracket. -/
def classText? (cs : List Char) : Option (List Char × List Char) :=
  -- neither the `!` nor a bracket right behind it closes the class
  let (bang, rest) := if cs.head? == some '!' then (['!'], cs.tail) else ([], cs)
  let (bracket, rest) := if rest.head? == some ']' then ([']'], rest.tail) else ([], rest)
  (cut? ']' rest).map fun (body, behind) => (bang ++ bracket ++ body, behind)

theorem length_classText?_lt {cs body behind : List Char}
    (h : classText? cs = some (body, behind)) : behind.length < cs.length := by
  simp only [classText?, Option.map_eq_some_iff, Prod.exists, Prod.mk.injEq] at h
  obtain ⟨b, d, hcut, -, rfl⟩ := h
  have shorter := congrArg List.length (eq_of_cut? hcut).1
  simp only [List.length_append, List.length_cons] at shorter
  split at shorter <;> split at shorter <;> simp only [List.length_tail] at shorter <;> omega

/-- Cuts a class text at the dashes that make ranges. A dash within the first `skip` characters
makes none, and the two characters after a cut cannot be one. -/
def rangeChunks (skip : Nat) (cs : List Char) : List (List Char) :=
  match h : cut? '-' (cs.drop skip) with
  | none => [cs]
  | some (before, behind) =>
    have : behind.length < cs.length := by
      have shorter := congrArg List.length (eq_of_cut? h).1
      simp only [List.length_drop, List.length_append, List.length_cons] at shorter
      omega
    (cs.take skip ++ before) :: rangeChunks 2 behind
termination_by cs.length

/-- A dash at the end of a class stands for itself. -/
def closeChunks : List (List Char) → List (List Char)
  | [] => []
  | [chunk] => [chunk]
  | [chunk, []] => [chunk ++ ['-']]
  | chunk :: rest => chunk :: closeChunks rest

/-- Joins two neighbouring chunks whose range would be the wrong way round, without its ends. -/
def joinReversed (chunk : List Char) : List (List Char) → List (List Char)
  | [] => [chunk]
  | next :: rest =>
    match chunk.getLast?, next.head? with
    | some low, some high =>
      if high < low then (chunk.dropLast ++ next.tail) :: rest else chunk :: next :: rest
    | _, _ => chunk :: next :: rest

/-- The ranges between neighbouring chunks. A dash with no member at one of its sides stands for
itself. -/
def boundaryRanges : List (List Char) → List (Char × Char)
  | chunk :: next :: rest =>
    match chunk.getLast?, next.head? with
    | some low, some high => (low, high) :: boundaryRanges (next :: rest)
    | _, _ => ('-', '-') :: boundaryRanges (next :: rest)
  | _ => []

/-- The token of a class text. -/
def classToken (body : List Char) : GlobToken :=
  -- the first member cannot be a dash that makes a range
  let skip := if body.head? == some '!' then 2 else 1
  let chunks := (closeChunks (rangeChunks skip body)).foldr joinReversed []
  let (negated, chunks) :=
    match chunks with
    | ('!' :: chunk) :: rest => (true, chunk :: rest)
    | chunks => (false, chunks)
  .oneOf negated (chunks.flatten.map (fun c => (c, c)) ++ boundaryRanges chunks)

/-- The tokens of a pattern. Stars in a row count as one. -/
def ofChars : List Char → Glob
  | [] => []
  -- two stars stand for the same texts as one
  | '*' :: rest =>
    match ofChars rest with
    | .anyText :: tokens => .anyText :: tokens
    | tokens => .anyText :: tokens
  | '?' :: rest => .anyOne :: ofChars rest
  | '[' :: rest =>
    match h : classText? rest with
    | none => .literal '[' :: ofChars rest
    | some (body, behind) =>
      have : behind.length < rest.length := length_classText?_lt h
      classToken body :: ofChars behind
  | c :: rest => .literal c :: ofChars rest
termination_by cs => cs.length

/-- Whether a token that stands for one character accepts this one. -/
def admits : GlobToken → Char → Bool
  | .literal a, c => a == c
  | .anyOne, _ => true
  | .anyText, _ => true
  | .oneOf negated ranges, c => (ranges.any fun (low, high) => low ≤ c && c ≤ high) != negated

/-- What became of matching a pattern at one place of a text. -/
inductive Verdict where
  /-- The pattern and the text end together. -/
  | accepted
  /-- A character does not fit; a star before may try a later place. -/
  | misfit
  /-- The text ended too soon, or a star further on has tried every place: no later place fits. -/
  | exhausted
  deriving DecidableEq, Repr

/-- Matches tokens against a text. A star tries every place from the left and gives up as soon as
no later one can do better. -/
def verdict : Glob → List Char → Verdict
  | [], [] => .accepted
  | [], _ :: _ => .misfit
  | .anyText :: tokens, [] => if verdict tokens [] = .accepted then .accepted else .exhausted
  -- the star takes nothing here, or at least one character more
  | .anyText :: tokens, c :: cs =>
    match verdict tokens (c :: cs) with
    | .misfit => verdict (.anyText :: tokens) cs
    | settled => settled
  | _ :: _, [] => .exhausted
  | token :: tokens, c :: cs => if admits token c then verdict tokens cs else .misfit
termination_by tokens cs => tokens.length + cs.length

/-- Whether a text as a whole has the shape of a pattern. -/
def accepts (pattern text : List Char) : Bool :=
  verdict (ofChars pattern) text == .accepted

end Glob

end MakeAtlas.Text
