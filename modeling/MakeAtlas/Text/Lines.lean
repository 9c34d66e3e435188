import MakeAtlas.Text.Blank

/-!
# Lines

Two ways to divide a text. `lines` ends a line at any line terminator and takes a carriage
return with a line feed as one; a text that ends in a terminator has no empty last line.
`newlineParts` divides at line feeds only and keeps every piece.

`unifyNewlines` writes every carriage return, with or without a line feed after it, as one
line feed.
-/

namespace MakeAtlas.Text

/-- The characters that end a line. -/
def isTerminator (c : Char) : Bool :=
  let n := c.toNat
  (10 ≤ n && n ≤ 13) || (28 ≤ n && n ≤ 30) || n == 0x85 || n == 0x2028 || n == 0x2029

theorem isBlank_of_isTerminator {c : Char} (h : isTerminator c = true) : isBlank c = true := by
  simp only [isTerminator, isBlank, Bool.or_eq_true, Bool.and_eq_true, decide_eq_true_eq,
    beq_iff_eq] at h ⊢
  omega

/-- Puts a character at the front of the first line. -/
def extendFirst (c : Char) : List (List Char) → List (List Char)
  | [] => [[c]]
  | line :: rest => (c :: line) :: rest

/-- The lines of a text, without their terminators. -/
def lines : List Char → List (List Char)
  | [] => []
  | '\r' :: '\n' :: rest => [] :: lines rest
  | c :: rest => if isTerminator c then [] :: lines rest else extendFirst c (lines rest)

/-- The pieces of a text between its line feeds. -/
def newlineParts (cs : List Char) : List (List Char) :=
  splitWhen (· == '\n') cs

theorem count_lineFeed_cons (c : Char) (cs : List Char) :
    (c :: cs).count '\n' = [c].count '\n' + cs.count '\n' := by
  rw [← List.singleton_append, List.count_append]

/-- Every carriage return, with the line feed that may follow it, becomes one line feed. -/
def unifyNewlines : List Char → List Char
  | [] => []
  | '\r' :: '\n' :: rest => '\n' :: unifyNewlines rest
  | '\r' :: rest => '\n' :: unifyNewlines rest
  | c :: rest => c :: unifyNewlines rest

/-- A text in which every carriage return is gone holds none. -/
theorem not_mem_unifyNewlines (cs : List Char) : '\r' ∉ unifyNewlines cs := by
  fun_induction unifyNewlines cs with
  | case1 => simp
  | case2 rest ih => simpa using ih
  | case3 rest _ ih => simpa using ih
  | case4 c rest _ hc ih =>
    simp only [List.mem_cons, not_or]
    exact ⟨fun h => hc h.symm, ih⟩

end MakeAtlas.Text
