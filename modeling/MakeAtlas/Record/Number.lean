import MakeAtlas.Record.Fault
import MakeAtlas.Text.Blank
import MakeAtlas.Value.Decimal

/-!
# Numbers written as text

Which texts stand for a number where a record wants one. Spaces around it do not count, and a
single underscore may separate digits.

A whole number is first read as it stands, in its plain form. Only a text that is not plain is
tidied: a plus, zeros in front and a fraction of zeros are taken away. A minus may follow the zeros.
-/

namespace MakeAtlas.Record

open MakeAtlas.Text

/-- The blanks that may surround a number; the information separators are none of them. -/
def isSpace (c : Char) : Bool :=
  isBlank c && !(28 ≤ c.toNat && c.toNat ≤ 31)

/-- A text without the spaces around it. -/
def trimSpaces (cs : List Char) : List Char :=
  dropEndWhile isSpace (cs.dropWhile isSpace)

/-- Removes underscores that stand alone between two characters. -/
def dropUnderscores? (cs : List Char) : Option (List Char) :=
  if (splitWhen (· == '_') cs).any List.isEmpty then none
  else some (cs.filter (· != '_'))

/-- A sign at the front of a text, and the rest. -/
def splitSign : List Char → Bool × List Char
  | '-' :: rest => (true, rest)
  | '+' :: rest => (false, rest)
  | rest => (false, rest)

/-- The most digits of a whole number. -/
def maxIntDigits : Nat := 4300

/-- The whole number in its plain form: digits, of which the first is zero only if it is the last
one too, and perhaps a minus before them. -/
def plainInt (cs : List Char) : Except Cause Int :=
  let (negative, rest) :=
    match cs with
    | '-' :: rest => (true, rest)
    | rest => (false, rest)
  match rest.takeWhile Char.isDigit with
  | [] => .error .intText
  | '0' :: _ => if rest.length = 1 then .ok 0 else .error .intText
  | digits =>
    -- that there are too many digits shows before anything behind them does
    if maxIntDigits < digits.length then .error .intTextTooLong
    else if digits.length < rest.length then .error .intText
    else
      let n : Int := Decimal.digitsValue digits
      .ok (if negative then -n else n)

/-- What remains of a number behind its leading zeros, given the last of them. A zero before a point
or at the end remains. -/
def afterZeros? (last : Char) : List Char → Option (List Char)
  | [] => some [last]
  | c :: rest =>
    if c = '0' || c = '_' then afterZeros? c rest
    else if c = '.' then some (last :: c :: rest)
    else if c.isDigit || c = '-' then some (c :: rest)
    else none

/-- A number without leading zeros; it begins with a digit or a minus. -/
def dropZeros? : List Char → Option (List Char)
  | [] => none
  | '0' :: rest => afterZeros? '0' rest
  | c :: rest => if c.isDigit || c = '-' then some (c :: rest) else none

/-- A number without a fraction of one or more zeros. -/
def dropZeroFraction (cs : List Char) : List Char :=
  match cut? '.' cs with
  | some (whole, zeros) => if !zeros.isEmpty && zeros.all (· == '0') then whole else cs
  | none => cs

/-- The plain form of a number, if it can have one. -/
def tidyInt? (cs : List Char) : Option (List Char) :=
  let unsigned? :=
    match trimSpaces cs with
    | '+' :: '-' :: _ => none
    | '+' :: rest => some rest
    | rest => some rest
  (unsigned?.bind dropZeros?).map fun kept =>
    let whole := dropZeroFraction kept
    (dropUnderscores? whole).getD whole

/-- The whole number that a text stands for. -/
def intOfText (cs : List Char) : Except Cause Int :=
  match plainInt cs with
  | .error .intText =>
    match tidyInt? cs with
    | some tidy => plainInt tidy
    | none => .error .intText
  | settled => settled

/-- The number that a text without a sign stands for. -/
def magnitude? (negative : Bool) (cs : List Char) : Option Float :=
  match String.ofList (cs.map Char.toLower) with
  | "inf" | "infinity" => some (if negative then -1.0 / 0.0 else 1.0 / 0.0)
  | "nan" => some (0.0 / 0.0)
  | _ =>
    let whole := cs.takeWhile Char.isDigit
    let rest := cs.dropWhile Char.isDigit
    let (fraction, rest) :=
      match rest with
      | '.' :: rest => (rest.takeWhile Char.isDigit, rest.dropWhile Char.isDigit)
      | rest => ([], rest)
    if whole.isEmpty && fraction.isEmpty then none
    else
      match rest, Decimal.exponent? rest with
      | [], _ => some (Decimal.Parts.toFloat ⟨negative, whole, some fraction, none⟩)
      | _, some (exponent, []) =>
        some (Decimal.Parts.toFloat ⟨negative, whole, some fraction, some exponent⟩)
      | _, _ => none

/-- The number that a text stands for. -/
def floatOfText? (cs : List Char) : Option Float :=
  let parse (cs : List Char) : Option Float :=
    let (negative, rest) := splitSign cs
    magnitude? negative rest
  parse (trimSpaces cs) <|> (dropUnderscores? cs).bind parse

/-- The truth value that a text stands for. -/
def boolOfText? (s : String) : Option Bool :=
  let word := String.ofList (s.toList.map Char.toLower)
  if word ∈ ["0", "off", "f", "false", "n", "no"] then some false
  else if word ∈ ["1", "on", "t", "true", "y", "yes"] then some true
  else none

/-- The whole number that a double is, if it lies between the 64-bit integers. -/
def intOfFloat (x : Float) : Except Cause Int :=
  if x.isNaN || x.isInf then .error .notFinite
  else if x.floor != x then .error .fractional
  else if -9223372036854775808.0 < x && x < 9223372036854775808.0 then .ok x.toInt64.toInt
  else .error .intTextTooLong

/-- Whether a whole number is one of the 64-bit integers. -/
def isSmall (n : Int) : Bool :=
  -9223372036854775808 ≤ n && n ≤ 9223372036854775807

/-- The double nearest to a whole number, if it is finite. -/
def floatOfInt? (n : Int) : Option Float :=
  let x := Decimal.ofDecimal (n < 0) n.natAbs 0
  if x.isInf then none else some x

end MakeAtlas.Record
