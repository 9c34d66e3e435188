import MakeAtlas.Text.Hex
import MakeAtlas.Text.Printable

/-!
# Quoted text

How messages quote a text: between single quotes, or between double quotes if the text holds a
single quote and no double one. Backslashes, the quote in use and characters that are not printable
are escaped; a code point is written with two, four or eight hexadecimal digits, whichever is the
fewest that hold it.
-/

namespace MakeAtlas.Text

/-- The mark that a text is quoted with. -/
def quoteMark (cs : List Char) : Char :=
  if cs.contains '\'' && !cs.contains '"' then '"' else '\''

/-- A character as it is written between quotes. -/
def escapeChar (mark c : Char) : List Char :=
  let n := c.toNat
  if c = mark || c = '\\' then ['\\', c]
  else if c = '\n' then ['\\', 'n']
  else if c = '\r' then ['\\', 'r']
  else if c = '\t' then ['\\', 't']
  else if isPrintable c then [c]
  else if n < 0x100 then '\\' :: 'x' :: hexDigits 2 n
  else if n < 0x10000 then '\\' :: 'u' :: hexDigits 4 n
  else '\\' :: 'U' :: hexDigits 8 n

/-- A text between quotes. -/
def quoted (text : String) : String :=
  let cs := text.toList
  let mark := quoteMark cs
  String.ofList (mark :: cs.flatMap (escapeChar mark) ++ [mark])

/-- Quoted texts as a bracketed list. -/
def quotedList (texts : List String) : String :=
  "[" ++ String.intercalate ", " (texts.map quoted) ++ "]"

end MakeAtlas.Text
