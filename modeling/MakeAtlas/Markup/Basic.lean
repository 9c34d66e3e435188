import MakeAtlas.Markup.Emoji
import MakeAtlas.Markup.Style

/-!
# Marked-up text

Text may hold tags in square brackets. A tag opens a style, a tag with a slash closes the innermost
open style of its name, or the innermost of all if it names none. What is shown is the text without
its tags, with emoji in the place of their names, and without the control characters that move a
printer's head.

* A tag begins with a small letter, `#`, `/` or `@` and holds no opening bracket. Other brackets are
  text.
* Of the backslashes before a tag every two are one, and a single one that is left makes the tag
  text. Elsewhere a backslash before an opening bracket is not shown.
* A tag that begins with `@` names a handler. What stands behind its equals sign are the parameters
  of a call, which are read when the tag is closed. How they are written is not said here.

* `length_tagBody?_lt`   a tag takes text away
-/

namespace MakeAtlas.Markup

open MakeAtlas.Text

/-- Why a text cannot be shown. -/
inductive Fault where
  /-- No style that the tag could close is open. -/
  | unmatched (tag : String) (position : Nat)
  /-- No style is open. -/
  | nothingOpen (position : Nat)
  /-- A component of a colour is left out. -/
  | emptyComponent
  /-- The parameters of a handler cannot be read. -/
  | unreadable (reason : String)
  deriving DecidableEq, Repr

/-- What is said about a text that cannot be shown. -/
def Fault.message : Fault → String
  | .unmatched tag position =>
    "closing tag '" ++ tag ++ "' at position " ++ toString position ++
      " doesn't match any open tag"
  | .nothingOpen position =>
    "closing tag '[/]' at position " ++ toString position ++ " has nothing to close"
  | .emptyComponent => "invalid literal for int() with base 10: ''"
  | .unreadable reason => "error parsing " ++ reason

/-- A part of a marked-up text: text, or a tag without its brackets and its place. -/
inductive Piece where
  | text (cs : List Char)
  | tag (body : List Char) (position : Nat)
  deriving DecidableEq, Repr

/-- Whether a tag may begin with a character. -/
def startsTag (c : Char) : Bool :=
  c.isLower || c == '#' || c == '/' || c == '@'

/-- What follows the closing bracket of a tag's body, and the body, whose first character is
given. -/
def tagRest? : List Char → Option (List Char × List Char)
  | [] => none
  | c :: rest =>
    if c = ']' then some ([], rest)
    else if c = '[' then none
    else (tagRest? rest).map fun (body, behind) => (c :: body, behind)

/-- The body of the tag at the front of a text, and what follows it. -/
def tagBody? : List Char → Option (List Char × List Char)
  | '[' :: c :: rest =>
    if startsTag c then (tagRest? rest).map fun (body, behind) => (c :: body, behind) else none
  | _ => none

theorem length_tagRest?_lt {cs body behind : List Char} (h : tagRest? cs = some (body, behind)) :
    behind.length < cs.length := by
  fun_induction tagRest? cs generalizing body with
  | case1 => cases h
  | case2 =>
    cases h
    exact Nat.lt_succ_self _
  | case3 => cases h
  | case4 c rest _ _ ih =>
    obtain ⟨⟨b, d⟩, hrest, hb⟩ := Option.map_eq_some_iff.1 h
    cases hb
    exact Nat.lt_succ_of_lt (ih hrest)

theorem length_tagBody?_lt {cs body behind : List Char} (h : tagBody? cs = some (body, behind)) :
    behind.length < cs.length := by
  unfold tagBody? at h
  split at h
  · split at h
    · obtain ⟨⟨b, d⟩, hrest, hb⟩ := Option.map_eq_some_iff.1 h
      cases hb
      have := length_tagRest?_lt hrest
      simp only [List.length_cons]
      omega
    · cases h
  · cases h

theorem length_tagBody?_dropWhile_lt {p : Char → Bool} {cs body behind : List Char}
    (h : tagBody? (cs.dropWhile p) = some (body, behind)) : behind.length < cs.length :=
  Nat.lt_of_lt_of_le (length_tagBody?_lt h) (List.dropWhile_suffix p).length_le

/-- The pieces for a tag with some backslashes before it, given its place. -/
def tagPieces (backslashes : Nat) (body : List Char) (position : Nat) : List Piece :=
  let shown :=
    if backslashes / 2 = 0 then [] else [Piece.text (List.replicate (backslashes / 2) '\\')]
  shown ++
    if backslashes % 2 = 1 then [.text ('[' :: body ++ [']'])]
    else [.tag body position]

/-- The piece for plain text, if there is any, given with its last character first. -/
def plainPieces (plain : List Char) : List Piece :=
  if plain.isEmpty then [] else [.text plain.reverse]

/-- The pieces of a text from a position on, given the plain text before it, last character
first. -/
def piecesFrom (plain : List Char) (position : Nat) (cs : List Char) : List Piece :=
  match cs with
  | [] => plainPieces plain
  | c :: rest =>
    let backslashes := ((c :: rest).takeWhile (· == '\\')).length
    match h : tagBody? ((c :: rest).dropWhile (· == '\\')) with
    | some (body, behind) =>
      have : behind.length < rest.length + 1 := length_tagBody?_dropWhile_lt h
      plainPieces plain ++ tagPieces backslashes body (position + backslashes) ++
        piecesFrom [] (position + backslashes + body.length + 2) behind
    | none => piecesFrom (c :: plain) (position + 1) rest
termination_by cs.length

/-- Plain text without the backslashes before opening brackets. -/
def dropEscapes : List Char → List Char
  | [] => []
  | '\\' :: '[' :: rest => '[' :: dropEscapes rest
  | c :: rest => c :: dropEscapes rest

/-- The control characters that are not shown. -/
def isHidden (c : Char) : Bool :=
  c == '\x07' || c == '\x08' || c == '\x0b' || c == '\x0c' || c == '\r'

/-- Plain text as it is shown. -/
def shownText (cs : List Char) : List Char :=
  (withEmoji (dropEscapes cs)).filter fun c => !isHidden c

/-- The normal form of the style that a tag names. -/
def styleOf (name : List Char) : Except Fault String :=
  (normalStyle name).mapError fun _ => .emptyComponent

/-- A tag that is open: its style, and what stands behind its equals sign. -/
structure OpenTag where
  style : String
  parameters : List Char := []

/-- How the parameters of a handler are read: what is said of those that cannot be read. -/
abbrev ParameterReader := List Char → Option String

/-- Closes a tag. Only the parameters of a handler are read. -/
def OpenTag.close (reader : ParameterReader) (tag : OpenTag) : Except Fault Unit :=
  if tag.style.toList.head? = some '@' ∧ tag.parameters ≠ [] then
    match reader tag.parameters with
    | some reason => .error (.unreadable reason)
    | none => .ok ()
  else .ok ()

/-- The tags that are open after a tag, the innermost first. -/
def afterTag (reader : ParameterReader) (opened : List OpenTag) (body : List Char)
    (position : Nat) : Except Fault (List OpenTag) := do
  let (name, parameters) := (cut? '=' body).getD (body, [])
  match name with
  | '/' :: closed =>
    if (trim closed).isEmpty then
      match opened with
      | [] => .error (.nothingOpen position)
      | tag :: outer =>
        tag.close reader
        .ok outer
    else
      let style ← styleOf (trim closed)
      match opened.find? fun tag => tag.style == style with
      | none => .error (.unmatched (String.ofList ('[' :: body ++ [']'])) position)
      | some tag =>
        tag.close reader
        .ok (opened.eraseP fun tag => tag.style == style)
  | name =>
    let style ← styleOf name
    .ok (⟨style, parameters⟩ :: opened)

/-- The text that pieces show, given the tags that are open before them. -/
def showPieces (reader : ParameterReader) (opened : List OpenTag) :
    List Piece → Except Fault (List Char)
  | [] => .ok []
  | .text cs :: rest => do
    let others ← showPieces reader opened rest
    .ok (shownText cs ++ others)
  | .tag body position :: rest => do
    let opened ← afterTag reader opened body position
    showPieces reader opened rest

/-- The pieces of a marked-up text. -/
def pieces (text : String) : List Piece :=
  piecesFrom [] 0 text.toList

/-- The text that a marked-up text shows. -/
def shown (reader : ParameterReader) (text : String) : Except Fault String :=
  (showPieces reader [] (pieces text)).map String.ofList

/-- What is wrong with the style that a tag opens, once the words behind an equals sign are read as
part of it. -/
def Piece.styleFault? : Piece → Option Fault
  | .text _ => none
  | .tag ('/' :: _) _ => none
  | .tag body _ =>
    let (name, parameters) := (cut? '=' body).getD (body, [])
    match normalStyle name with
    | .error _ => none
    | .ok style =>
      match Style.read {} (Text.words (style.toList ++ ' ' :: parameters)) with
      | .error .emptyComponent => some .emptyComponent
      | _ => none

/-- What is wrong with the styles of a marked-up text once they are put to use. -/
def styleFault? (text : String) : Option Fault :=
  (pieces text).findSome? Piece.styleFault?

end MakeAtlas.Markup
