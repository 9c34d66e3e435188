import MakeAtlas.Value.Basic

/-!
# Writing JSON

`render` writes a value with two blanks of indentation for each level, `compact` on one line.
Quotes, backslashes and control characters are escaped; all other characters are written as they
are.
-/

namespace MakeAtlas.Json

/-- A character as it is written inside a string. -/
def escapeChar (c : Char) : List Char :=
  if c = '"' then ['\\', '"']
  else if c = '\\' then ['\\', '\\']
  else if c = '\n' then ['\\', 'n']
  else if c = '\r' then ['\\', 'r']
  else if c = '\t' then ['\\', 't']
  else if c.toNat = 8 then ['\\', 'b']
  else if c.toNat = 12 then ['\\', 'f']
  else if c.toNat < 32 then '\\' :: 'u' :: Text.hexDigits 4 c.toNat
  else [c]

/-- A string with its quotes. -/
def renderText (s : String) : String :=
  String.ofList ('"' :: s.toList.flatMap escapeChar ++ ['"'])

/-- A number that need not be finite. -/
def renderFloat (x : Float) : String :=
  if x.isNaN then "NaN"
  else if x.isInf then if x < 0.0 then "-Infinity" else "Infinity"
  else Decimal.render x

/-- A value that is neither a list nor a table. -/
def renderScalar : Value → String
  | .null => "null"
  | .bool true => "true"
  | .bool false => "false"
  | .int n => toString n
  | .float x => renderFloat x
  | .text s => renderText s
  | .moment written => renderText written
  | .list _ => "[]"
  | .table _ => "\x7b\x7d"

/-- Items one below the other, each after a line feed and the given indentation. -/
def block (opening closing indent outer : String) (items : List String) : String :=
  if items.isEmpty then opening ++ closing
  else opening ++ indent ++ String.intercalate ("," ++ indent) items ++ outer ++ closing

/-- The indentation of a level, with the line feed before it. -/
def lineBreak (level : Nat) : String :=
  String.ofList ('\n' :: List.replicate (2 * level) ' ')

mutual

/-- A value whose first line stands at the given level. -/
def renderAt (level : Nat) : Value → String
  | .list items =>
    block "[" "]" (lineBreak (level + 1)) (lineBreak level) (renderItems (level + 1) items)
  | .table entries =>
    block "\x7b" "\x7d" (lineBreak (level + 1)) (lineBreak level)
      (renderEntries (level + 1) entries)
  | value => renderScalar value

/-- The items of a list. -/
def renderItems (level : Nat) : List Value → List String
  | [] => []
  | item :: rest => renderAt level item :: renderItems level rest

/-- The entries of a table. -/
def renderEntries (level : Nat) : List (String × Value) → List String
  | [] => []
  | (key, value) :: rest =>
    (renderText key ++ ": " ++ renderAt level value) :: renderEntries level rest

end

/-- A document with one entry a line. -/
def render (value : Value) : String :=
  renderAt 0 value

mutual

/-- A document on one line. -/
def compact : Value → String
  | .list items => "[" ++ String.intercalate "," (compactItems items) ++ "]"
  | .table entries => "\x7b" ++ String.intercalate "," (compactEntries entries) ++ "\x7d"
  | value => renderScalar value

/-- The items of a list on one line. -/
def compactItems : List Value → List String
  | [] => []
  | item :: rest => compact item :: compactItems rest

/-- The entries of a table on one line. -/
def compactEntries : List (String × Value) → List String
  | [] => []
  | (key, value) :: rest => (renderText key ++ ":" ++ compact value) :: compactEntries rest

end

end MakeAtlas.Json
