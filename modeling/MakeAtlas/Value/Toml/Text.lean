import MakeAtlas.Text.Blank
import MakeAtlas.Text.Hex

/-!
# Strings and keys in TOML

Four kinds of strings: between double quotes, with escapes, or between single quotes, literally;
each on one line or, between three quotes in a row, on several. A key is a sequence of parts
between points; a part is a bare word or a string on one line.
-/

namespace MakeAtlas.Toml

open MakeAtlas.Text

/-- Whether a character may stand in a comment or in a string on one line. -/
def isLineChar (c : Char) : Bool :=
  c == '\t' || (32 ≤ c.toNat && c.toNat != 127)

/-- Whether a character may stand in a string on several lines. -/
def isBlockChar (c : Char) : Bool :=
  c == '\n' || isLineChar c

/-- The blanks between tokens where a statement may go on to the next line. -/
def isGapBlank (c : Char) : Bool :=
  c == '\n' || isInlineBlank c

/-- The part before the first occurrence of a mark, and the part after it. -/
def cutMark? (mark : List Char) : List Char → Option (List Char × List Char)
  | [] => none
  | c :: rest =>
    match after? mark (c :: rest) with
    | some behind => some ([], behind)
    | none => (cutMark? mark rest).map fun (before, behind) => (c :: before, behind)

/-- The character of an escape that is a single letter. -/
def simpleEscape? : Char → Option Char
  | '"' => some '"'
  | '\\' => some '\\'
  | 'b' => some '\x08'
  | 'f' => some '\x0c'
  | 'n' => some '\n'
  | 'r' => some '\r'
  | 't' => some '\t'
  | _ => none

/-- The character whose code is written with `width` hexadecimal digits. -/
def codeEscape? (width : Nat) (cs : List Char) : Option (List Char × List Char) :=
  (hexNumber? width cs).bind fun (code, rest) =>
    if code.isValidChar then some ([Char.ofNat code], rest) else none

/-- What an escape stands for, its backslash taken away, and what follows it. On several lines, a
backslash at the end of a line takes away all blanks up to the next text. -/
def escape? (block : Bool) (cs : List Char) : Option (List Char × List Char) :=
  match cs with
  | [] => none
  | 'u' :: rest => codeEscape? 4 rest
  | 'U' :: rest => codeEscape? 8 rest
  | c :: rest =>
    if block && isGapBlank c then
      match cs.dropWhile isInlineBlank with
      | '\n' :: more => some ([], more.dropWhile isGapBlank)
      | _ => none
    else (simpleEscape? c).map fun e => ([e], rest)

/-- One element of an escaped string: the characters it stands for, and what follows. The closing
quotes stand for none. -/
def element? (block : Bool) (cs : List Char) : Option (Option (List Char) × List Char) :=
  match cs with
  | [] => none
  | '"' :: rest =>
    if block then
      match after? ['"', '"'] rest with
      | some behind => some (none, behind)
      | none => some (some ['"'], rest)
    else some (none, rest)
  | '\\' :: rest => (escape? block rest).map fun (chars, behind) => (some chars, behind)
  | c :: rest =>
    if if block then isBlockChar c else isLineChar c then some (some [c], rest) else none

/-- The text of an escaped string whose opening quotes have been read, and what follows it. An
element that took no text away would end the reading. -/
def escaped? (block : Bool) (cs : List Char) : Option (List Char × List Char) :=
  match element? block cs with
  | none => none
  | some (none, rest) => some ([], rest)
  | some (some chars, rest) =>
    if rest.length < cs.length then
      (escaped? block rest).map fun (text, behind) => (chars ++ text, behind)
    else none
termination_by cs.length

/-- The text of a literal string whose opening quotes have been read, and what follows it. -/
def literal? (block : Bool) (cs : List Char) : Option (List Char × List Char) :=
  (cutMark? (if block then ['\'', '\'', '\''] else ['\'']) cs).filter fun (text, _) =>
    text.all (if block then isBlockChar else isLineChar)

/-- Up to two more quotes right behind the closing ones belong to the text. -/
def withQuotes (quote : Char) : List Char × List Char → List Char × List Char
  | (text, rest) =>
    match after? [quote, quote] rest with
    | some behind => (text ++ [quote, quote], behind)
    | none =>
      match after? [quote] rest with
      | some behind => (text ++ [quote], behind)
      | none => (text, rest)

/-- A line feed right behind the opening quotes is no part of the text. -/
def dropFirstBreak : List Char → List Char
  | '\n' :: rest => rest
  | rest => rest

/-- The text of the string that begins with a quote, and what follows it. -/
def string? (quote : Char) (cs : List Char) : Option (List Char × List Char) :=
  let body? (block : Bool) := if quote = '"' then escaped? block else literal? block
  -- two quotes more open a string on several lines
  match after? [quote, quote] cs with
  | some rest => (body? true (dropFirstBreak rest)).map (withQuotes quote)
  | none => body? false cs

/-- The characters of a bare word. -/
def isBareChar (c : Char) : Bool :=
  c.isAlphanum || c == '-' || c == '_'

/-- One part of a key, and what follows it. -/
def keyPart? (cs : List Char) : Option (String × List Char) :=
  match cs with
  | '"' :: rest => (escaped? false rest).map fun (text, behind) => (String.ofList text, behind)
  | '\'' :: rest => (literal? false rest).map fun (text, behind) => (String.ofList text, behind)
  | _ =>
    match cs.takeWhile isBareChar with
    | [] => none
    | word => some (String.ofList word, cs.dropWhile isBareChar)

/-- The first part of a key, the other parts, and what follows the key and the blanks behind it. -/
def key? (cs : List Char) : Option (String × List String × List Char) :=
  match keyPart? cs with
  | none => none
  | some (part, rest) =>
    match rest.dropWhile isInlineBlank with
    | '.' :: more =>
      if (more.dropWhile isInlineBlank).length < cs.length then
        (key? (more.dropWhile isInlineBlank)).map fun (next, others, behind) =>
          (part, next :: others, behind)
      else none
    | behind => some (part, [], behind)
termination_by cs.length

end MakeAtlas.Toml
