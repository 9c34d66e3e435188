import MakeAtlas.Text.Lines
import Mathlib.Data.List.TakeWhile

/-!
# Lines of texts behind each other

A line feed between two texts ends a line, whatever the first one ends with: it may end the last
line of that text, be the second half of a line end that is already there, or end an empty line.

## Key results

- `lines_of_ended`, `lines_of_forall`: a line in front of others, and a line alone
- `lines_append_lineFeed`: the lines of two texts with a line feed between them
- `lines_ended`: a line feed at the end makes at most an empty line of its own
- `filterMap_lines_append`: what the lines of two texts yield, where empty lines yield nothing
- `pieceInduction`: texts cut at the characters of a class
- `newlineParts_line`, `lineInduction`: where only line feeds end lines
-/

namespace MakeAtlas.Text

/-- A character that ends no line goes to the front of the first line. -/
theorem lines_cons {c : Char} (h : isTerminator c = false) (cs : List Char) :
    lines (c :: cs) = extendFirst c (lines cs) := by
  rw [lines.eq_3]
  · rw [if_neg (by simp [h])]
  · rintro _ rfl
    exact absurd h (by decide)

/-- A character that ends a line, and is no part of a longer line end, leaves a line in front. -/
theorem lines_terminator {c : Char} (h : isTerminator c = true) {cs : List Char}
    (hreturn : c = '\r' → cs.head? ≠ some '\n') : lines (c :: cs) = [] :: lines cs := by
  rw [lines.eq_3]
  · rw [if_pos h]
  · rintro _ hc rfl
    exact hreturn hc rfl

theorem lines_ne_nil {cs : List Char} (h : cs ≠ []) : lines cs ≠ [] := by
  have hextend : ∀ (c : Char) (ls : List (List Char)), extendFirst c ls ≠ [] := by
    intro c ls
    cases ls <;> exact List.cons_ne_nil _ _
  fun_cases lines cs with
  | case1 => exact absurd rfl h
  | case2 => exact List.cons_ne_nil _ _
  | case3 => exact List.cons_ne_nil _ _
  | case4 => exact hextend _ _

theorem extendFirst_append (c : Char) {ls : List (List Char)} (h : ls ≠ [])
    (more : List (List Char)) : extendFirst c (ls ++ more) = extendFirst c ls ++ more := by
  cases ls with
  | nil => exact absurd rfl h
  | cons l ls => rfl

/-- A line comes in front of all others, whatever ends it. -/
theorem lines_of_ended {line : List Char} (h : ∀ c ∈ line, isTerminator c = false) {c : Char}
    (hc : isTerminator c = true) {rest : List Char}
    (hreturn : c = '\r' → rest.head? ≠ some '\n') :
    lines (line ++ c :: rest) = line :: lines rest := by
  induction line with
  | nil => exact lines_terminator hc hreturn
  | cons d line ih =>
    rw [List.forall_mem_cons] at h
    rw [List.cons_append, lines_cons h.1, ih h.2]
    rfl

/-- A line that a line feed ends comes in front of all others. -/
theorem lines_of_line {line : List Char} (h : ∀ c ∈ line, isTerminator c = false)
    (rest : List Char) : lines (line ++ '\n' :: rest) = line :: lines rest :=
  lines_of_ended h rfl fun hc => absurd hc (by decide)

/-- A text without line ends is a line, unless it is empty. -/
theorem lines_of_forall {line : List Char} (h : ∀ c ∈ line, isTerminator c = false)
    (hne : line ≠ []) : lines line = [line] := by
  induction line with
  | nil => exact absurd rfl hne
  | cons c line ih =>
    rw [List.forall_mem_cons] at h
    rw [lines_cons h.1]
    cases line with
    | nil => rfl
    | cons d line =>
      rw [ih h.2 (List.cons_ne_nil d line)]
      rfl

/-- A carriage return before a text that does not start with a line feed is a line end of its own,
unless the text is empty and a line feed follows. -/
private theorem head?_append_ne {rest : List Char} (hne : rest ≠ [])
    (h : ∀ more, rest = '\n' :: more → False) (behind : List Char) :
    (rest ++ behind).head? ≠ some '\n' := by
  cases rest with
  | nil => exact absurd rfl hne
  | cons d rest =>
    intro hd
    cases hd
    exact h rest rfl

/-- The lines of two texts with a line feed between them: those of the first text, ended by the line
    feed, and those of the second one. -/
theorem lines_append_lineFeed (first second : List Char) :
    lines (first ++ '\n' :: second) = lines (first ++ ['\n']) ++ lines second := by
  fun_induction lines first with
  | case1 => rfl
  | case2 rest ih => exact congrArg ([] :: ·) ih
  | case3 c rest hreturn hend ih =>
    by_cases hlast : c = '\r' ∧ rest = []
    · obtain ⟨rfl, rfl⟩ := hlast
      rfl
    · have halone : ∀ behind, c = '\r' → (rest ++ behind).head? ≠ some '\n' := by
        intro behind hc
        exact head?_append_ne (fun hrest => hlast ⟨hc, hrest⟩) (fun more => hreturn more hc) behind
      rw [List.cons_append, List.cons_append, lines_terminator hend (halone _),
        lines_terminator hend (halone _), ih, List.cons_append]
  | case4 c rest hreturn hend ih =>
    have hc : isTerminator c = false := by simpa using hend
    rw [List.cons_append, List.cons_append, lines_cons hc, lines_cons hc, ih,
      extendFirst_append c (lines_ne_nil (by simp))]

/-- A line feed at the end of a text ends its last line, or an empty line behind it. -/
theorem lines_ended (cs : List Char) :
    lines (cs ++ ['\n']) = lines cs ∨ lines (cs ++ ['\n']) = lines cs ++ [[]] := by
  fun_induction lines cs with
  | case1 => exact Or.inr rfl
  | case2 rest ih => exact ih.imp (congrArg ([] :: ·)) (congrArg ([] :: ·))
  | case3 c rest hreturn hend ih =>
    by_cases hlast : c = '\r' ∧ rest = []
    · obtain ⟨rfl, rfl⟩ := hlast
      exact Or.inl rfl
    · have halone : c = '\r' → (rest ++ ['\n']).head? ≠ some '\n' := fun hc =>
        head?_append_ne (fun hrest => hlast ⟨hc, hrest⟩) (fun more => hreturn more hc) _
      rw [List.cons_append, lines_terminator hend halone]
      exact ih.imp (congrArg ([] :: ·)) (congrArg ([] :: ·))
  | case4 c rest hreturn hend ih =>
    have hc : isTerminator c = false := by simpa using hend
    rw [List.cons_append, lines_cons hc]
    rcases ih with ih | ih
    · exact Or.inl (congrArg (extendFirst c) ih)
    · cases rest with
      | nil => exact Or.inl rfl
      | cons d rest =>
        right
        rw [ih, extendFirst_append c (lines_ne_nil (List.cons_ne_nil d rest))]

/-- Where an empty line yields nothing, the lines of two texts with a line feed between them yield
    what those of the first text yield, and those of the second one. -/
theorem filterMap_lines_append {α : Type} {f : List Char → Option α} (h : f [] = none)
    (first second : List Char) :
    (lines (first ++ '\n' :: second)).filterMap f =
      (lines first).filterMap f ++ (lines second).filterMap f := by
  have hended : (lines (first ++ ['\n'])).filterMap f = (lines first).filterMap f := by
    rcases lines_ended first with hlines | hlines
    · rw [hlines]
    · rw [hlines, List.filterMap_append, List.filterMap_cons_none h, List.filterMap_nil,
        List.append_nil]
  rw [lines_append_lineFeed, List.filterMap_append, hended]

/-! ## Lines that only line feeds end -/

/-- A line that a line feed ends comes in front of all others. -/
theorem newlineParts_line {line : List Char} (h : '\n' ∉ line) (rest : List Char) :
    newlineParts (line ++ '\n' :: rest) = line :: newlineParts rest := by
  simp only [newlineParts]
  induction line with
  | nil => rfl
  | cons c line ih =>
    rw [List.mem_cons, not_or] at h
    simp [splitWhen, ih h.2, Ne.symm h.1]

theorem newlineParts_of_not_mem {line : List Char} (h : '\n' ∉ line) :
    newlineParts line = [line] := by
  simp only [newlineParts]
  induction line with
  | nil => rfl
  | cons c line ih =>
    rw [List.mem_cons, not_or] at h
    simp [splitWhen, ih h.2, Ne.symm h.1]

/-- What holds of a text without characters of a class, and of such a text with one of them and more
    behind it if it holds of what follows, holds of every text. -/
@[elab_as_elim]
theorem pieceInduction {P : List Char → Prop} (sep : Char → Bool)
    (last : ∀ piece, (∀ c ∈ piece, sep c = false) → P piece)
    (more : ∀ piece c rest, (∀ c ∈ piece, sep c = false) → sep c = true → P rest →
      P (piece ++ c :: rest)) (cs : List Char) : P cs := by
  induction hn : cs.length using Nat.strongRecOn generalizing cs with
  | ind n ih =>
    cases hrest : cs.dropWhile (fun c => !sep c) with
    | nil =>
      refine last cs fun c hc => ?_
      simpa using List.dropWhile_eq_nil_iff.1 hrest c hc
    | cons c rest =>
      have hsplit := List.takeWhile_append_dropWhile (p := fun c => !sep c) (l := cs)
      rw [hrest] at hsplit
      have hc : sep c = true := by
        simpa [hrest] using List.head?_dropWhile_not (fun c => !sep c) cs
      rw [← hsplit] at hn ⊢
      refine more _ c rest (fun d hd => ?_) hc (ih rest.length ?_ rest rfl)
      · simpa using List.mem_takeWhile_imp hd
      · rw [← hn, List.length_append, List.length_cons]
        omega

/-- What holds of each line alone, and of a line with others behind it if it holds of those, holds
    of every text. -/
@[elab_as_elim]
theorem lineInduction {P : List Char → Prop} (last : ∀ line, '\n' ∉ line → P line)
    (more : ∀ line rest, '\n' ∉ line → P rest → P (line ++ '\n' :: rest)) (cs : List Char) :
    P cs := by
  have hnone : ∀ {piece : List Char}, (∀ c ∈ piece, (c == '\n') = false) → '\n' ∉ piece :=
    fun h hmem => absurd (h _ hmem) (by decide)
  induction cs using pieceInduction (· == '\n') with
  | last piece h => exact last piece (hnone h)
  | more piece c rest h hc ih =>
    rw [eq_of_beq hc]
    exact more piece rest (hnone h) ih

end MakeAtlas.Text
