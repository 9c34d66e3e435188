import MakeAtlas.Value.Basic
import MakeAtlas.Value.Document
import MakeAtlas.Value.Toml.Text

/-!
# Numbers, dates and times in TOML

Digits may be separated by single underscores. Whole numbers are written in base ten, or without a
sign in base sixteen, eight or two. A date has to exist in the calendar; a time of day may follow
it, and an offset may follow that.
-/

namespace MakeAtlas.Toml

open MakeAtlas.Text

/-- Digits at the front of a text, which single underscores may separate, and what follows them. -/
def digitRun (isDigit : Char → Bool) : List Char → List Char × List Char
  | '_' :: c :: rest =>
    if isDigit c then
      let (digits, behind) := digitRun isDigit rest
      (c :: digits, behind)
    else ([], '_' :: c :: rest)
  | c :: rest =>
    if isDigit c then
      let (digits, behind) := digitRun isDigit rest
      (c :: digits, behind)
    else ([], c :: rest)
  | [] => ([], [])

/-- A run of at least one digit that begins with no underscore. -/
def digits? (isDigit : Char → Bool) (cs : List Char) : Option (List Char × List Char) :=
  match cs with
  | c :: _ => if isDigit c then some (digitRun isDigit cs) else none
  | [] => none

/-- The value of digits in a base. -/
def valueIn (base : Nat) (digits : List Char) : Nat :=
  digits.foldl (fun n c => n * base + (hexValue? c).getD 0) 0

/-- The base that a letter behind a zero announces. -/
def base? : Char → Option Nat
  | 'x' => some 16
  | 'o' => some 8
  | 'b' => some 2
  | _ => none

/-- Whether a character is a digit in a base. -/
def isDigitIn (base : Nat) (c : Char) : Bool :=
  (hexValue? c).any (· < base)

/-- A whole number with an announced base, and what follows it. -/
def basedInt? (cs : List Char) : Option (Nat × List Char) :=
  match cs with
  | '0' :: letter :: rest =>
    (base? letter).bind fun base =>
      (digits? (isDigitIn base) rest).map fun (digits, behind) => (valueIn base digits, behind)
  | _ => none

/-- A sign at the front of a text, if there is one, and what follows it. -/
def sign? : List Char → Option Bool × List Char
  | '-' :: rest => (some true, rest)
  | '+' :: rest => (some false, rest)
  | rest => (none, rest)

/-- The digits before the point of a number. A leading zero stands alone. -/
def wholePart? (cs : List Char) : Option (List Char × List Char) :=
  match cs with
  | '0' :: rest => some (['0'], rest)
  | _ => digits? Char.isDigit cs

/-- The digits behind a point, and what follows them. -/
def fractionPart (cs : List Char) : Option (List Char) × List Char :=
  match cs with
  | '.' :: rest =>
    match digits? Char.isDigit rest with
    | some (digits, behind) => (some digits, behind)
    | none => (none, cs)
  | _ => (none, cs)

/-- The exponent of a number, and what follows it. -/
def exponentPart (cs : List Char) : Option Int × List Char :=
  match cs with
  | [] => (none, cs)
  | c :: rest =>
    if c = 'e' || c = 'E' then
      let (sign, rest) := sign? rest
      match digits? Char.isDigit rest with
      | some (digits, behind) =>
        let size : Int := Decimal.digitsValue digits
        (some (if sign = some true then -size else size), behind)
      | none => (none, cs)
    else (none, cs)

/-- The decimal number at the front of a text, and what follows it. -/
def decimal? (cs : List Char) : Option (Except DocumentError Value × List Char) :=
  let (sign, rest) := sign? cs
  let negative := sign = some true
  (wholePart? rest).map fun (whole, rest) =>
    let (fraction, rest) := fractionPart rest
    let (exponent, rest) := exponentPart rest
    if fraction.isNone && exponent.isNone then
      if DocumentError.maxIntDigits < whole.length then (.error (.tooManyDigits whole.length), rest)
      else
        let n : Int := Decimal.digitsValue whole
        (.ok (.int (if negative then -n else n)), rest)
    else (.ok (.float (Decimal.Parts.toFloat ⟨negative, whole, fraction, exponent⟩)), rest)

/-- An infinity or no number, in words, and what follows it. -/
def specialFloat? (cs : List Char) : Option (Value × List Char) :=
  let (sign, rest) := sign? cs
  match after? "inf".toList rest with
  | some behind => some (.float (if sign = some true then -1.0 / 0.0 else 1.0 / 0.0), behind)
  | none => (after? "nan".toList rest).map fun behind => (.float (0.0 / 0.0), behind)

/-- The number that exactly `width` decimal digits stand for, and what follows them. -/
def fixedDigits? (width : Nat) (cs : List Char) : Option (Nat × List Char) :=
  let digits := cs.take width
  if digits.length = width && digits.all Char.isDigit then
    some (Decimal.digitsValue digits, cs.drop width)
  else none

/-- A number in two digits between two bounds, and what follows it. -/
def twoDigits? (low high : Nat) (cs : List Char) : Option (Nat × List Char) :=
  (fixedDigits? 2 cs).filter fun (n, _) => low ≤ n && n ≤ high

/-- What follows a time of day, with a fraction of a second if there is one. -/
def afterTime? (cs : List Char) : Option (List Char) := do
  let (_, rest) ← twoDigits? 0 23 cs
  let rest ← after? [':'] rest
  let (_, rest) ← twoDigits? 0 59 rest
  let rest ← after? [':'] rest
  let (_, rest) ← twoDigits? 0 59 rest
  match rest with
  | '.' :: c :: more => if c.isDigit then some (more.dropWhile Char.isDigit) else some rest
  | _ => some rest

/-- What follows an offset from universal time, if there is one. -/
def afterOffset (cs : List Char) : List Char :=
  match cs with
  | [] => []
  | c :: rest =>
    if c = 'Z' || c = 'z' then rest
    else if c = '+' || c = '-' then
      let behind : Option (List Char) := do
        let (_, rest) ← twoDigits? 0 23 rest
        let rest ← after? [':'] rest
        let (_, rest) ← twoDigits? 0 59 rest
        some rest
      behind.getD cs
    else cs

/-- How many days a month has. -/
def daysIn (year month : Nat) : Nat :=
  if month = 2 then
    if year % 4 = 0 && (year % 100 != 0 || year % 400 = 0) then 29 else 28
  else if month ∈ [4, 6, 9, 11] then 30
  else 31

/-- Whether a date at the front of a text is in the calendar, and what follows it and the time that
may belong to it. -/
def afterDate? (cs : List Char) : Option (Bool × List Char) := do
  let (year, rest) ← fixedDigits? 4 cs
  let rest ← after? ['-'] rest
  let (month, rest) ← twoDigits? 1 12 rest
  let rest ← after? ['-'] rest
  let (day, rest) ← twoDigits? 1 31 rest
  let behind :=
    match rest with
    | c :: time =>
      if c = 'T' || c = 't' || c = ' ' then
        match afterTime? time with
        | some behind => afterOffset behind
        | none => rest
      else rest
    | [] => []
  -- a year zero and days beyond the end of the month are in no calendar
  some (0 < year && day ≤ daysIn year month, behind)

/-- The part of a text that has been read, given what is left of it. -/
def readPart (cs behind : List Char) : String :=
  String.ofList (cs.take (cs.length - behind.length))

/-- The date or time at the front of a text, and what follows it. -/
def moment? (cs : List Char) : Option (Except DocumentError Value × List Char) :=
  match afterDate? cs with
  | some (valid, behind) =>
    some (if valid then .ok (.moment (readPart cs behind)) else .error .malformed, behind)
  | none => (afterTime? cs).map fun behind => (.ok (.moment (readPart cs behind)), behind)

/-- The truth value at the front of a text, and what follows it. -/
def bool? (cs : List Char) : Option (Value × List Char) :=
  match after? "true".toList cs with
  | some behind => some (.bool true, behind)
  | none => (after? "false".toList cs).map fun behind => (.bool false, behind)

/-- A value that is neither a list nor a table, and what follows it. -/
def scalar (cs : List Char) : Except DocumentError (Value × List Char) :=
  let text (quote : Char) (rest : List Char) : Except DocumentError (Value × List Char) :=
    match string? quote rest with
    | some (body, behind) => .ok (.text (String.ofList body), behind)
    | none => .error .malformed
  match cs with
  | '"' :: rest => text '"' rest
  | '\'' :: rest => text '\'' rest
  | _ =>
    match bool? cs with
    | some found => .ok found
    | none =>
      match moment? cs with
      | some (value, behind) => value.map fun value => (value, behind)
      | none =>
        match basedInt? cs with
        | some (n, behind) => .ok (.int n, behind)
        | none =>
          match decimal? cs with
          | some (value, behind) => value.map fun value => (value, behind)
          | none =>
            match specialFloat? cs with
            | some found => .ok found
            | none => .error .malformed

end MakeAtlas.Toml
