/-!
# Decimal texts of binary numbers

A finite double is `significand · 2 ^ exponent`. Among the decimals that are nearer to it than to
any other double, `shortest` takes one with the fewest digits, and of those the nearest; a tie goes
to the even digit. `render` writes it positionally from one ten-thousandth up to 10^16, and
otherwise with one digit before the point and a signed exponent of at least two digits.

`ofDecimal` goes the other way: the double nearest to `digits · 10 ^ exponent`.
-/

namespace MakeAtlas

/-- A positive binary number, with the exponent of its lowest bit. `narrowBelow` says that the gap
to the next smaller double is half as wide as the gap to the next greater one. -/
structure Binary where
  significand : Nat
  exponent : Int
  narrowBelow : Bool
  deriving DecidableEq, Repr

namespace Binary

/-- The magnitude of a finite double. -/
def ofFloat (x : Float) : Binary :=
  let bits := x.toBits.toNat
  let hidden := Nat.pow 2 52
  let fraction := bits % hidden
  let scale := bits / hidden % Nat.pow 2 11
  -- a subnormal number has no hidden bit
  if scale = 0 then ⟨fraction, -1074, false⟩
  else ⟨fraction + hidden, (scale : Int) - 1075, fraction = 0 && 1 < scale⟩

/-- A fraction of naturals; the denominator is positive in all uses. -/
structure Ratio where
  num : Nat
  den : Nat

/-- A quarter of the number's lowest bit, divided by a power of ten, as a fraction. -/
def quarterOver (b : Binary) (tens : Int) : Ratio :=
  let twos := b.exponent - 2
  ⟨Nat.pow 2 twos.toNat * Nat.pow 10 (-tens).toNat, Nat.pow 2 (-twos).toNat * Nat.pow 10 tens.toNat⟩

/-- The number, and the ends of the interval of reals that round to it, in quarters of the lowest
bit. -/
def quarters (b : Binary) : Nat × Nat × Nat :=
  let value := 4 * b.significand
  (if b.narrowBelow then value - 1 else value - 2, value, value + 2)

/-- Whether `digits · 10 ^ tens` rounds to the number. -/
def readsBack (b : Binary) (tens : Int) (digits : Nat) : Bool :=
  let (low, _, high) := b.quarters
  let unit := b.quarterOver tens
  let scaled := digits * unit.den
  -- the ends of the interval round to an even significand only
  if b.significand % 2 = 0 then low * unit.num ≤ scaled && scaled ≤ high * unit.num
  else low * unit.num < scaled && scaled < high * unit.num

/-- The decimal exponent of the number's first digit. -/
def leadingTen (b : Binary) : Int :=
  let unit := b.quarterOver (-400)
  ((Nat.toDigits 10 (4 * b.significand * unit.num / unit.den)).length : Int) - 401

/-- The better of the two neighbours of the number on the grid of multiples of `10 ^ tens`. -/
def onGrid? (b : Binary) (tens : Int) : Option Nat :=
  let unit := b.quarterOver tens
  let scaled := 4 * b.significand * unit.num
  let below := scaled / unit.den
  let rest := 2 * (scaled % unit.den)
  match b.readsBack tens below, b.readsBack tens (below + 1) with
  -- of two that read back the nearer one counts, and of two as near the even one
  | true, true =>
    if rest < unit.den || (rest = unit.den && below % 2 = 0) then some below else some (below + 1)
  | true, false => some below
  | false, true => some (below + 1)
  | false, false => none

/-- The fewest digits that read back as the number, with the decimal exponent of their last one. -/
def shortest (b : Binary) : Nat × Int :=
  let top := b.leadingTen
  let candidates := (List.range 17).filterMap fun (n : Nat) =>
    let tens := top - (n : Int)
    (b.onGrid? tens).map fun digits => (digits, tens)
  -- seventeen digits are always enough; the exact value stands in if there were none
  candidates.headD
    (b.significand * Nat.pow 5 (-b.exponent).toNat * Nat.pow 2 b.exponent.toNat, min b.exponent 0)

end Binary

namespace Decimal

/-- Digits without the zeros at their end, and the exponent that makes up for them. -/
def stripZeros (digits : List Char) (tens : Int) : List Char × Int :=
  let kept := (digits.reverse.dropWhile (· == '0')).reverse
  (kept, tens + (digits.length - kept.length : Nat))

/-- The text of `digits · 10 ^ tens`. -/
def layout (digits : List Char) (tens : Int) : List Char :=
  let point : Int := tens + digits.length
  if -4 < point && point ≤ 16 then
    if point ≤ 0 then '0' :: '.' :: (List.replicate (-point).toNat '0' ++ digits)
    else
      let whole := digits.take point.toNat
      let part := digits.drop point.toNat
      whole ++ List.replicate (point.toNat - digits.length) '0' ++ '.' ::
        (if part.isEmpty then ['0'] else part)
  else
    let power := point - 1
    let size := Nat.toDigits 10 power.natAbs
    digits.take 1 ++ (if digits.length > 1 then '.' :: digits.drop 1 else []) ++
      ['e', if power < 0 then '-' else '+'] ++ (if size.length < 2 then '0' :: size else size)

/-- The shortest text that reads back as a number. -/
def render (x : Float) : String :=
  if x.isNaN then "nan"
  else
    let sign := if x.toBits.toNat / Nat.pow 2 63 = 1 then "-" else ""
    if x.isInf then sign ++ "inf"
    else
      let b := Binary.ofFloat x
      if b.significand = 0 then sign ++ "0.0"
      else
        let (digits, tens) := b.shortest
        let (digits, tens) := stripZeros (Nat.toDigits 10 digits) tens
        sign ++ String.ofList (layout digits tens)

/-- The double nearest to a decimal. Magnitudes that are surely out of range are not computed. -/
def ofDecimal (negative : Bool) (digits : Nat) (tens : Int) : Float :=
  let size : Int := (Nat.toDigits 10 digits).length + tens
  let magnitude : Float :=
    if digits = 0 || size < -400 then 0.0
    else if 400 < size then 1.0 / 0.0
    else if 0 ≤ tens then Float.ofScientific (digits * Nat.pow 10 tens.toNat) false 0
    else Float.ofScientific digits true (-tens).toNat
  if negative then -magnitude else magnitude

/-- The value of a run of decimal digits. -/
def digitsValue (cs : List Char) : Nat :=
  cs.foldl (fun n c => 10 * n + (c.toNat - '0'.toNat)) 0

/-- The parts of a decimal text: digits before the point, after it, and the exponent if one is
written. -/
structure Parts where
  negative : Bool
  whole : List Char
  fraction : Option (List Char)
  exponent : Option Int
  deriving Repr

/-- The number that the parts stand for. -/
def Parts.toFloat (p : Parts) : Float :=
  let fraction := p.fraction.getD []
  ofDecimal p.negative (digitsValue (p.whole ++ fraction)) (p.exponent.getD 0 - fraction.length)

/-- The exponent part at the front of a text, and what follows it. Without digits there is none. -/
def exponent? (cs : List Char) : Option (Int × List Char) :=
  match cs with
  | e :: rest =>
    if e = 'e' || e = 'E' then
      let (negative, rest) :=
        match rest with
        | '-' :: rest => (true, rest)
        | '+' :: rest => (false, rest)
        | rest => (false, rest)
      match rest.takeWhile Char.isDigit with
      | [] => none
      | digits =>
        let size : Int := digitsValue digits
        some (if negative then -size else size, rest.dropWhile Char.isDigit)
    else none
  | [] => none

end Decimal

end MakeAtlas
