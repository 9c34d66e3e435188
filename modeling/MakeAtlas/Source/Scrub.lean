import MakeAtlas.Text.Blank

/-!
# Scrubbing C and C++ sources

`scrub` blanks what only looks like code: comments go, of literals only the quotes stay. A block
comment leaves its line feeds behind, so that line numbers hold.

An include directive that stands at the start of a line, after spaces, tabs and block comments
closed on that line, is kept with its header name, and each comment in it becomes one space. An
opener without its closer is an ordinary character.

* `length_closeComment?_lt`, `length_closeLiteral?_lt`   a closed comment or literal takes text away
-/

namespace MakeAtlas.Source

open MakeAtlas.Text

/-- Reads on to the end of a block comment: its text, and what follows the closing mark. -/
def closeComment? : List Char → Option (List Char × List Char)
  | [] => none
  | '*' :: '/' :: rest => some ([], rest)
  | c :: rest => (closeComment? rest).map fun (body, behind) => (c :: body, behind)

theorem length_closeComment?_lt {cs body behind : List Char}
    (h : closeComment? cs = some (body, behind)) : behind.length < cs.length := by
  fun_induction closeComment? cs generalizing body with
  | case1 => simp at h
  | case2 rest =>
    simp only [Option.some.injEq, Prod.mk.injEq] at h
    obtain ⟨-, rfl⟩ := h
    simp only [List.length_cons]
    omega
  | case3 c rest _ ih =>
    simp only [Option.map_eq_some_iff, Prod.exists, Prod.mk.injEq] at h
    obtain ⟨b, d, hclose, -, rfl⟩ := h
    exact Nat.lt_succ_of_lt (ih hclose)

/-- Reads on to the end of a literal. A backslash takes the next character with it, a line feed
included; a bare line feed leaves the literal open. -/
def closeLiteral? (quote : Char) : List Char → Option (List Char)
  | [] => none
  | ['\\'] => none
  | '\\' :: _ :: rest => closeLiteral? quote rest
  | c :: rest =>
    if c = quote then some rest
    else if c = '\n' then none
    else closeLiteral? quote rest

theorem length_closeLiteral?_lt {quote : Char} {cs behind : List Char}
    (h : closeLiteral? quote cs = some behind) : behind.length < cs.length := by
  fun_induction closeLiteral? quote cs with
  | case1 => simp at h
  | case2 => simp at h
  | case3 c rest ih =>
    have := ih h
    simp only [List.length_cons]
    omega
  | case4 rest =>
    simp only [Option.some.injEq] at h
    simp [h]
  | case5 => simp at h
  | case6 c rest _ _ _ _ ih =>
    have := ih h
    simp only [List.length_cons]
    omega

/-- What may follow a block comment that is closed on its line: one place for each closing mark
there, the nearest first. -/
def inlineClosings : List Char → List (List Char)
  | [] => []
  | '\n' :: _ => []
  | '*' :: '/' :: rest => rest :: inlineClosings ('/' :: rest)
  | _ :: rest => inlineClosings rest

theorem length_lt_of_mem_inlineClosings {cs behind : List Char}
    (h : behind ∈ inlineClosings cs) : behind.length < cs.length := by
  fun_induction inlineClosings cs with
  | case1 => simp at h
  | case2 => simp at h
  | case3 rest ih =>
    rcases List.mem_cons.1 h with rfl | h
    · simp only [List.length_cons]
      omega
    · have := ih h
      simp only [List.length_cons] at this ⊢
      omega
  | case4 c rest _ _ ih => exact Nat.lt_succ_of_lt (ih h)

/-- Skips the spaces and tabs at the front. -/
def skipInline (cs : List Char) : List Char :=
  cs.dropWhile isInlineBlank

theorem length_skipInline_le (cs : List Char) : (skipInline cs).length ≤ cs.length :=
  (List.dropWhile_suffix _).length_le

/-- Skips a header name that ends on its line. -/
def skipHeaderName? : List Char → Option (List Char)
  | '"' :: rest => (cutInLine? '"' rest).map Prod.snd
  | '<' :: rest => (cutInLine? '>' rest).map Prod.snd
  | _ => none

/-- Skips `#include` with its header name. -/
def skipDirective? (cs : List Char) : Option (List Char) := do
  let rest ← after? ['#'] cs
  let rest ← after? "include".toList (skipInline rest)
  skipHeaderName? (skipInline rest)

/-- Skips the block comments and blanks that may stand before a directive, and the directive. The
nearest closing mark is tried first. -/
def skipCommented? (cs : List Char) : Option (List Char) :=
  match h : after? ['/', '*'] (skipInline cs) with
  | none => skipDirective? (skipInline cs)
  | some body =>
    (inlineClosings body).attach.findSome? fun ⟨behind, hmem⟩ =>
      -- what follows a closing mark is shorter than what follows the opening one
      have : behind.length < cs.length := by
        have h1 := length_lt_of_mem_inlineClosings hmem
        have h2 := length_lt_of_after? h (by simp)
        have h3 := length_skipInline_le cs
        omega
      skipCommented? behind
termination_by cs.length

/-- Every block comment becomes one space. -/
def spaceComments (cs : List Char) : List Char :=
  match cs with
  | [] => []
  | '/' :: '*' :: body =>
    match h : closeComment? body with
    | some (_, behind) =>
      have := length_closeComment?_lt h
      ' ' :: spaceComments behind
    | none => '/' :: spaceComments ('*' :: body)
  | c :: rest => c :: spaceComments rest
termination_by cs.length

/-- One step of scrubbing: what is written for the front of a text, and what remains. At the start
of a line a directive is looked for first. -/
def scrubStep (lineStart : Bool) (c : Char) (rest : List Char) : List Char × List Char :=
  match if lineStart then skipCommented? (c :: rest) else none with
  | some behind => (spaceComments ((c :: rest).take ((c :: rest).length - behind.length)), behind)
  | none =>
    match c, rest with
    -- a block comment leaves its line feeds behind
    | '/', '*' :: body =>
      match closeComment? body with
      | some (comment, behind) => (List.replicate (comment.count '\n') '\n', behind)
      | none => (['/'], rest)
    -- a line comment ends before its line feed
    | '/', '/' :: body => ([], body.dropWhile (· != '\n'))
    -- of a literal the two quotes stay
    | '"', body =>
      match closeLiteral? '"' body with
      | some behind => (['"', '"'], behind)
      | none => (['"'], rest)
    | '\'', body =>
      match closeLiteral? '\'' body with
      | some behind => (['\'', '\''], behind)
      | none => (['\''], rest)
    | c, rest => ([c], rest)

theorem length_skipHeaderName?_lt {cs behind : List Char}
    (h : skipHeaderName? cs = some behind) : behind.length < cs.length := by
  unfold skipHeaderName? at h
  split at h
  · obtain ⟨⟨name, rest⟩, hcut, rfl⟩ := Option.map_eq_some_iff.1 h
    exact Nat.lt_succ_of_lt (length_cutInLine?_lt hcut)
  · obtain ⟨⟨name, rest⟩, hcut, rfl⟩ := Option.map_eq_some_iff.1 h
    exact Nat.lt_succ_of_lt (length_cutInLine?_lt hcut)
  · simp at h

theorem length_skipDirective?_lt {cs behind : List Char}
    (h : skipDirective? cs = some behind) : behind.length < cs.length := by
  simp only [skipDirective?, Option.bind_eq_bind] at h
  obtain ⟨first, h1, h⟩ := Option.bind_eq_some_iff.1 h
  obtain ⟨second, h2, h3⟩ := Option.bind_eq_some_iff.1 h
  have l1 := length_lt_of_after? h1 (by simp)
  have l2 := length_lt_of_after? h2 (by simp)
  have l3 := length_skipHeaderName?_lt h3
  have l4 := length_skipInline_le first
  have l5 := length_skipInline_le second
  omega

theorem length_skipCommented?_lt {cs behind : List Char}
    (h : skipCommented? cs = some behind) : behind.length < cs.length := by
  -- Strong induction on the length: a comment is passed over before each further call
  induction hn : cs.length using Nat.strongRecOn generalizing cs with
  | ind n ih =>
    have l1 := length_skipInline_le cs
    unfold skipCommented? at h
    split at h
    · have := length_skipDirective?_lt h
      omega
    · next body hbody =>
      obtain ⟨⟨rest, hmem⟩, -, hrest⟩ := List.exists_of_findSome?_eq_some h
      have l2 := length_lt_of_mem_inlineClosings hmem
      have l3 := length_lt_of_after? hbody (by simp)
      have := ih rest.length (by omega) hrest rfl
      omega

theorem length_scrubStep_le (lineStart : Bool) (c : Char) (rest : List Char) :
    (scrubStep lineStart c rest).2.length ≤ rest.length := by
  unfold scrubStep
  split
  -- A directive is kept
  · next behind h =>
    split at h
    · have := length_skipCommented?_lt h
      simp only [List.length_cons] at this
      exact Nat.le_of_lt_succ this
    · simp at h
  -- The front of the text is a comment, a literal or an ordinary character
  · split
    · split
      · next h =>
        have := length_closeComment?_lt h
        simp only [List.length_cons]
        omega
      · simp
    · exact Nat.le_succ_of_le (List.dropWhile_suffix _).length_le
    · split
      · next h => exact Nat.le_of_lt (length_closeLiteral?_lt h)
      · simp
    · split
      · next h => exact Nat.le_of_lt (length_closeLiteral?_lt h)
      · simp
    · simp

/-- Scrubs a text from a place on, which may be the start of a line. -/
def scrubFrom (lineStart : Bool) : List Char → List Char
  | [] => []
  | c :: rest =>
    have := length_scrubStep_le lineStart c rest
    (scrubStep lineStart c rest).1 ++ scrubFrom (c == '\n') (scrubStep lineStart c rest).2
termination_by cs => cs.length

/-- The text without comments and without the contents of its literals. -/
def scrub (text : String) : String :=
  String.ofList (scrubFrom true text.toList)

end MakeAtlas.Source
