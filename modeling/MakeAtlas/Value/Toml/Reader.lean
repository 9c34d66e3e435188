import MakeAtlas.Value.Toml.Scalar
import MakeAtlas.Value.Toml.Tree

/-!
# Reading TOML

A document is a sequence of statements, one a line: a header begins a section, a key with a value
adds to the table of the section. Comments and blanks may stand behind a statement. Lists and tables
written in one piece are read with a stack of those that are still open. They may stand in one
another as deep as one likes: that a machine's stack may run out is not said here.
-/

namespace MakeAtlas.Toml

open MakeAtlas.Text

theorem length_afterComment_lt {cs rest : List Char} (h : cs.dropWhile isGapBlank = '#' :: rest) :
    (rest.dropWhile (· != '\n')).length < cs.length := by
  have first := (List.dropWhile_suffix (l := cs) isGapBlank).length_le
  have second := (List.dropWhile_suffix (l := rest) (· != '\n')).length_le
  rw [h, List.length_cons] at first
  omega

/-- What follows the blanks, line feeds and comments between the items of a list. -/
def afterGap? (cs : List Char) : Option (List Char) :=
  match h : cs.dropWhile isGapBlank with
  | '#' :: rest =>
    have := length_afterComment_lt h
    if (rest.takeWhile (· != '\n')).all isLineChar then afterGap? (rest.dropWhile (· != '\n'))
    else none
  | rest => some rest
termination_by cs.length

/-- A list or a table written in one piece that is not closed yet. -/
inductive Frame where
  /-- The items so far, the last one first. -/
  | list (items : List Value)
  /-- The entries so far, and the key of the value that comes next. -/
  | table (entries : Entries) (key : String) (more : List String)

/-- What has become of a value. -/
inductive Progress where
  /-- It is complete, and the text goes on behind it. -/
  | complete (value : Value) (rest : List Char)
  /-- Another value has to come first. -/
  | pending (frames : List Frame) (rest : List Char)

/-- The key of the next entry of a table written in one piece, whose value comes next. -/
def nextEntry? (entries : Entries) (outer : List Frame) (cs : List Char) : Option Progress := do
  let (key, more, rest) ← key? cs
  let rest ← after? ['='] rest
  some (.pending (.table entries key more :: outer) (rest.dropWhile isInlineBlank))

/-- A value is complete and goes to the innermost open list or table. -/
def close : List Frame → Value → List Char → Option Progress
  | [], value, cs => some (.complete value cs)
  | .list items :: outer, value, cs => do
    match (← afterGap? cs) with
    | ']' :: rest => close outer (.list (value :: items).reverse) rest
    -- a comma may stand behind the last item
    | ',' :: rest =>
      match (← afterGap? rest) with
      | ']' :: rest => close outer (.list (value :: items).reverse) rest
      | rest => some (.pending (.list (value :: items) :: outer) rest)
    | _ => none
  | .table entries key more :: outer, value, cs => do
    -- such a table has no sections, so one number serves for all of its entries
    let entries ← assign 0 value key more entries
    match cs.dropWhile isInlineBlank with
    | '}' :: rest => close outer (.table (Node.toValues entries)) rest
    | ',' :: rest => nextEntry? entries outer (rest.dropWhile isInlineBlank)
    | _ => none

/-- The begin of a value, or a whole one if it is neither a list nor a table. -/
def openValue (frames : List Frame) (cs : List Char) : Except DocumentError Progress :=
  let wellFormed (progress : Option Progress) : Except DocumentError Progress :=
    match progress with
    | some progress => .ok progress
    | none => .error .malformed
  match cs with
  | '[' :: rest =>
    wellFormed <| (afterGap? rest).bind fun
      | ']' :: rest => close frames (.list []) rest
      | rest => some (.pending (.list [] :: frames) rest)
  | '{' :: rest =>
    wellFormed <|
      match rest.dropWhile isInlineBlank with
      | '}' :: rest => close frames (.table []) rest
      | rest => nextEntry? [] frames rest
  | _ =>
    match scalar cs with
    | .ok (value, rest) => wellFormed (close frames value rest)
    | .error e => .error e

/-- The value at the front of a text, and what follows it. A step that took no text away would end
the reading. -/
def value (frames : List Frame) (cs : List Char) : Except DocumentError (Value × List Char) :=
  match openValue frames cs with
  | .error e => .error e
  | .ok (.complete value rest) => .ok (value, rest)
  | .ok (.pending frames rest) =>
    if rest.length < cs.length then value frames rest else .error .malformed
termination_by cs.length

/-- A document that has been read up to some line: its tables, the path of the section's table, and
how many headers there have been. -/
structure Draft where
  entries : Entries := []
  path : List String := []
  headers : Nat := 0

/-- A header, given what stands behind its opening bracket. -/
def header? (draft : Draft) (cs : List Char) : Option (Draft × List Char) := do
  let number := draft.headers + 1
  let (closing, act, cs) :=
    match cs with
    | '[' :: rest => ([']', ']'], extend, rest)
    | rest => ([']'], define number, rest)
  let (first, others, rest) ← key? (cs.dropWhile isInlineBlank)
  let path := first :: others
  let entries ← change (act (path.getLastD first)) path.dropLast draft.entries
  let rest ← after? closing rest
  some (⟨entries, path, number⟩, rest)

/-- A key with its value. -/
def entry (draft : Draft) (cs : List Char) : Except DocumentError (Draft × List Char) :=
  match key? cs with
  | some (key, more, '=' :: rest) => do
    let (value, behind) ← value [] (rest.dropWhile isInlineBlank)
    match change (assign draft.headers value key more) draft.path draft.entries with
    | some entries => .ok ({ draft with entries }, behind)
    | none => .error .malformed
  | _ => .error .malformed

/-- A statement that begins with no blank. -/
def statement (draft : Draft) (cs : List Char) : Except DocumentError (Draft × List Char) :=
  match cs with
  | '[' :: rest =>
    match header? draft rest with
    | some found => .ok found
    | none => .error .malformed
  | '#' :: _ => .ok (draft, cs)
  | _ => entry draft cs

/-- What follows the line that a statement stands on, if there is nothing else on it. -/
def afterLine? (cs : List Char) : Option (List Char) :=
  let rest := cs.dropWhile isInlineBlank
  let comment := rest.takeWhile (· != '\n')
  if comment.isEmpty || (comment.head? = some '#' && comment.all isLineChar) then
    some (rest.drop (comment.length + 1))
  else none

/-- Reads on from a draft to the end of the text. A line that took no text away would end the
reading. -/
def readFrom (draft : Draft) (cs : List Char) : Except DocumentError Value :=
  match cs with
  | [] => .ok (.table (Node.toValues draft.entries))
  | c :: rest =>
    if c = '\n' || isInlineBlank c then readFrom draft rest
    else
      match statement draft (c :: rest) with
      | .error e => .error e
      | .ok (draft, behind) =>
        match afterLine? behind with
        | none => .error .malformed
        | some more =>
          if more.length ≤ rest.length then readFrom draft more else .error .malformed
termination_by cs.length

/-- A carriage return before a line feed is no part of a text. -/
def dropReturns : List Char → List Char
  | [] => []
  | '\r' :: '\n' :: rest => '\n' :: dropReturns rest
  | c :: rest => c :: dropReturns rest

/-- The value of a document. -/
def read (text : String) : Except DocumentError Value :=
  readFrom {} (dropReturns text.toList)

end MakeAtlas.Toml
