import MakeAtlas.Table
import MakeAtlas.Text.Lines

/-!
# Makefile rules

A Makefile is read line by line, without expanding variables or following continuations; a line
of any other shape is passed over, never an error.

* A *target line* is a name of letters, digits, `_` and `-` directly followed by a colon. `targets`
  collects these; a later definition of a name replaces the earlier one in its place. Names that
  begin with `_` are internal.
* A *rule line* is any line, not indented and no comment, with some text before its first colon and
  at least one prerequisite after it. `rules` collects these with their line numbers.

A colon that belongs to `:=` or `::=` assigns a variable. Of a rule's remainder, the part before the
first `#` or `;` is split into words; a word stays unless it is the order-only bar, holds a `$`, or
begins with `/`, `@` or a double quote.
-/

namespace MakeAtlas.Makefile

open MakeAtlas.Text

/-- The part of a rule's remainder that lists prerequisites: comments and inline recipes are cut. -/
def listing (rest : List Char) : List Char :=
  before ';' (before '#' rest)

/-- Whether a word of the listing may name a file or a target. -/
def isPrerequisite (word : List Char) : Bool :=
  word != ['|'] && !word.contains '$' &&
    match word with
    | '/' :: _ | '@' :: _ | '"' :: _ => false
    | _ => true

/-- The prerequisites in a rule's remainder, in order. -/
def prerequisites (rest : List Char) : List String :=
  ((words (listing rest)).filter isPrerequisite).map String.ofList

/-- Whether the text after a line's first colon makes the line an assignment. -/
def isAssignment (rest : List Char) : Bool :=
  hasPrefix ['='] rest || hasPrefix [':', '='] rest || hasPrefix [':', ':', '='] rest

/-- The remainder of a double-colon rule is taken without its second colon. -/
def dropSecondColon : List Char → List Char
  | ':' :: rest => rest
  | rest => rest

/-- The characters of a target's name. -/
def isNameChar (c : Char) : Bool :=
  c.isAlphanum || c == '_' || c == '-'

/-- The name and remainder of a target line. -/
def targetLine? (line : List Char) : Option (String × List Char) :=
  let name := line.takeWhile isNameChar
  match name, line.dropWhile isNameChar with
  -- no name, or an internal one
  | [], _ => none
  | '_' :: _, _ => none
  | _, ':' :: rest =>
    if isAssignment rest then none else some (String.ofList name, dropSecondColon rest)
  | _, _ => none

/-- The targets of a Makefile with their prerequisites. -/
def targets (text : String) : Table (List String) :=
  Table.ofList <| (lines text.toList).filterMap fun line =>
    (targetLine? line).map fun (name, rest) => (name, prerequisites rest)

/-- A rule line: what stands before its colon, its prerequisites, and its number from one. -/
structure Rule where
  targets : String
  prerequisites : List String
  line : Nat
  deriving DecidableEq, Repr

/-- Whether a line can hold a rule: it is neither empty nor indented nor a comment. -/
def isRuleStart (line : List Char) : Bool :=
  match line with
  | [] => false
  | '#' :: _ => false
  | c :: _ => !isBlank c

/-- The head and remainder of a rule line. -/
def ruleLine? (line : List Char) : Option (String × List Char) :=
  if isRuleStart line then
    match cut? ':' line with
    | none => none
    | some (front, rest) =>
      let head := trim front
      if head.isEmpty || head.contains '=' || isAssignment rest then none
      else some (String.ofList head, dropSecondColon rest)
  else none

/-- The rules of a Makefile that have prerequisites, in order. -/
def rules (text : String) : List Rule :=
  (lines text.toList).zipIdx 1 |>.filterMap fun (line, number) =>
    match ruleLine? line with
    | none => none
    | some (head, rest) =>
      match prerequisites rest with
      | [] => none
      | found => some ⟨head, found, number⟩

end MakeAtlas.Makefile
