import MakeAtlas.Text.Hex
import MakeAtlas.Text.Lines

/-!
# Reading UTF-8

Bytes are read into characters and faults. A fault is the longest beginning of a character that
the next byte breaks off, or a single byte that begins none; reading goes on right behind it.
`decodeLossy` writes a replacement character for each fault, `decodeKeeping` leaves faults out, and
`decode` gives the first fault.
-/

namespace MakeAtlas.Text.Utf8

/-- The contents of a file. -/
abbrev Bytes := List UInt8

/-- Why bytes are not a character. -/
inductive Reason where
  | invalidStart
  | invalidContinuation
  | unexpectedEnd
  deriving DecidableEq, Repr

/-- The wording of a reason. -/
def Reason.text : Reason → String
  | .invalidStart => "invalid start byte"
  | .invalidContinuation => "invalid continuation byte"
  | .unexpectedEnd => "unexpected end of data"

/-- Bytes that are no character: where they begin, what they are, and why. -/
structure Fault where
  start : Nat
  bytes : Bytes
  reason : Reason
  deriving DecidableEq, Repr

/-- What a message says about a fault. -/
def Fault.message (f : Fault) : String :=
  let what :=
    match f.bytes with
    | [b] => "byte 0x" ++ String.ofList (hexDigits 2 b.toNat) ++ " in position " ++ toString f.start
    | _ =>
      "bytes in position " ++ toString f.start ++ "-" ++ toString (f.start + f.bytes.length - 1)
  "'utf-8' codec can't decode " ++ what ++ ": " ++ f.reason.text

/-- A character, or bytes that are none. -/
inductive Item where
  | char (c : Char)
  | fault (f : Fault)
  deriving DecidableEq, Repr

/-- A character that has begun: its bytes so far, the bits they hold, how many bytes are still to
come, and between which bounds the next one lies. -/
structure Begun where
  start : Nat
  bytes : Bytes
  bits : Nat
  missing : Nat
  low : Nat
  high : Nat
  deriving DecidableEq, Repr

/-- What a byte begins: a whole character, a longer one, or none. -/
def begin (pos : Nat) (byte : UInt8) : List Item × Option Begun :=
  let b := byte.toNat
  let longer (bits missing low high : Nat) : List Item × Option Begun :=
    ([], some ⟨pos, [byte], bits, missing, low, high⟩)
  if b < 0x80 then ([.char (Char.ofNat b)], none)
  -- continuation bytes, and two bytes that could only begin an overlong form
  else if b < 0xC2 then ([.fault ⟨pos, [byte], .invalidStart⟩], none)
  else if b < 0xE0 then longer (b - 0xC0) 1 0x80 0xBF
  -- the bounds of the second byte leave out overlong forms, surrogates and points too large
  else if b = 0xE0 then longer 0 2 0xA0 0xBF
  else if b = 0xED then longer 0xD 2 0x80 0x9F
  else if b < 0xF0 then longer (b - 0xE0) 2 0x80 0xBF
  else if b = 0xF0 then longer 0 3 0x90 0xBF
  else if b < 0xF4 then longer (b - 0xF0) 3 0x80 0xBF
  else if b = 0xF4 then longer 4 3 0x80 0x8F
  else ([.fault ⟨pos, [byte], .invalidStart⟩], none)

/-- Takes one byte. -/
def step (pos : Nat) (begun : Option Begun) (byte : UInt8) : List Item × Option Begun :=
  match begun with
  | none => begin pos byte
  | some g =>
    let b := byte.toNat
    if g.low ≤ b ∧ b ≤ g.high then
      let bits := g.bits * 64 + b % 64
      if g.missing ≤ 1 then ([.char (Char.ofNat bits)], none)
      else ([], some ⟨g.start, g.bytes ++ [byte], bits, g.missing - 1, 0x80, 0xBF⟩)
    else
      -- the byte that breaks a character off may begin another
      let (items, next) := begin pos byte
      (.fault ⟨g.start, g.bytes, .invalidContinuation⟩ :: items, next)

/-- Reads bytes from a position on. -/
def itemsFrom (pos : Nat) (begun : Option Begun) : Bytes → List Item
  | [] =>
    match begun with
    | none => []
    | some g => [.fault ⟨g.start, g.bytes, .unexpectedEnd⟩]
  | byte :: rest =>
    (step pos begun byte).1 ++ itemsFrom (pos + 1) (step pos begun byte).2 rest

/-- The characters and faults of bytes. -/
def items (bytes : Bytes) : List Item :=
  itemsFrom 0 none bytes

/-- The characters, with a replacement character for each fault. -/
def decodeLossy (bytes : Bytes) : List Char :=
  (items bytes).map fun
    | .char c => c
    | .fault _ => '\uFFFD'

/-- The characters alone. -/
def decodeKeeping (bytes : Bytes) : List Char :=
  (items bytes).filterMap fun
    | .char c => some c
    | .fault _ => none

/-- The characters, if there is no fault. -/
def decode (bytes : Bytes) : Except Fault (List Char) :=
  (items bytes).mapM fun
    | .char c => .ok c
    | .fault f => .error f

/-- The bytes of a text. -/
def encode (text : String) : Bytes :=
  text.toUTF8.data.toList

end MakeAtlas.Text.Utf8
