import MakeAtlas.Text.Blank
import MakeAtlas.Text.Hex
import MakeAtlas.Value.Basic
import MakeAtlas.Value.Document

/-!
# Reading JSON

A document is split into tokens, and the tokens drive a stack of open lists and tables. Beyond the
standard, `NaN` and infinities are numbers; of entries with the same key the last one counts, in
the place of the first. A number with more digits than `DocumentError.maxIntDigits` is refused, with
a cause of its own where a value may stand. Lists and tables may stand in one another as deep as one
likes: that a machine's stack may run out is not said here.

* `length_stringBody?_lt`   a string takes text away
-/

namespace MakeAtlas.Json

open MakeAtlas.Text

/-- A lexical element of a document. -/
inductive Token where
  | openList
  | closeList
  | openTable
  | closeTable
  | comma
  | colon
  | scalar (value : Except DocumentError Value)

/-- The character of an escape that is a single letter. -/
def simpleEscape? : Char → Option Char
  | '"' => some '"'
  | '\\' => some '\\'
  | '/' => some '/'
  | 'b' => some '\x08'
  | 'f' => some '\x0c'
  | 'n' => some '\n'
  | 'r' => some '\r'
  | 't' => some '\t'
  | _ => none

/-- The second half of a pair of surrogates, written as an escape of its own. -/
def lowSurrogate? : List Char → Option (Nat × List Char)
  | '\\' :: 'u' :: rest =>
    (hexNumber? 4 rest).filter fun (code, _) => 0xDC00 ≤ code && code < 0xE000
  | _ => none

/-- The character of a numeric escape, whose `\u` has been read: a pair of surrogates is one
character, a lone one the replacement character. -/
def unicodeEscape? (cs : List Char) : Option (Char × List Char) :=
  (hexNumber? 4 cs).map fun (code, rest) =>
    if 0xD800 ≤ code && code < 0xDC00 then
      match lowSurrogate? rest with
      | some (low, behind) =>
        (Char.ofNat (0x10000 + (code - 0xD800) * 0x400 + (low - 0xDC00)), behind)
      | none => ('\uFFFD', rest)
    else if 0xDC00 ≤ code && code < 0xE000 then ('\uFFFD', rest)
    else (Char.ofNat code, rest)

/-- One character of a string: the character it stands for, and what follows. A closing quote
stands for none. -/
def stringChar? : List Char → Option (Option Char × List Char)
  | [] => none
  | '"' :: rest => some (none, rest)
  | '\\' :: 'u' :: rest => (unicodeEscape? rest).map fun (c, behind) => (some c, behind)
  | '\\' :: c :: rest => (simpleEscape? c).map fun c => (some c, rest)
  | c :: rest => if c.toNat < 32 || c = '\\' then none else some (some c, rest)

theorem length_lowSurrogate?_lt {cs rest : List Char} {n : Nat}
    (h : lowSurrogate? cs = some (n, rest)) : rest.length < cs.length := by
  unfold lowSurrogate? at h
  split at h
  · have := length_hexNumber? (Option.filter_eq_some_iff.1 h).1
    simp only [List.length_cons]
    omega
  · cases h

theorem length_unicodeEscape?_lt {cs rest : List Char} {c : Char}
    (h : unicodeEscape? cs = some (c, rest)) : rest.length < cs.length := by
  simp only [unicodeEscape?, Option.map_eq_some_iff, Prod.exists] at h
  obtain ⟨code, more, hfour, h⟩ := h
  have first : more.length < cs.length := by
    have := length_hexNumber? hfour
    omega
  split at h
  · split at h
    · next hlow =>
      have second := length_lowSurrogate?_lt hlow
      simp only [Prod.mk.injEq] at h
      rw [← h.2]
      omega
    · simp only [Prod.mk.injEq] at h
      rw [← h.2]
      exact first
  · split at h
    · simp only [Prod.mk.injEq] at h
      rw [← h.2]
      exact first
    · simp only [Prod.mk.injEq] at h
      rw [← h.2]
      exact first

theorem length_stringChar?_lt {cs rest : List Char} {c : Option Char}
    (h : stringChar? cs = some (c, rest)) : rest.length < cs.length := by
  unfold stringChar? at h
  split at h
  · cases h
  · cases h
    exact Nat.lt_succ_self _
  · simp only [Option.map_eq_some_iff, Prod.exists, Prod.mk.injEq] at h
    obtain ⟨c', behind, hu, -, rfl⟩ := h
    have := length_unicodeEscape?_lt hu
    simp only [List.length_cons]
    omega
  · simp only [Option.map_eq_some_iff, Prod.mk.injEq] at h
    obtain ⟨_, -, -, rfl⟩ := h
    simp only [List.length_cons]
    omega
  · split at h
    · cases h
    · cases h
      exact Nat.lt_succ_self _

/-- The characters of a string whose opening quote has been read, and what follows it. -/
def stringBody? (cs : List Char) : Option (List Char × List Char) :=
  match h : stringChar? cs with
  | none => none
  | some (none, rest) => some ([], rest)
  | some (some c, rest) =>
    have := length_stringChar?_lt h
    (stringBody? rest).map fun (body, behind) => (c :: body, behind)
termination_by cs.length

theorem length_stringBody?_lt {cs body behind : List Char}
    (h : stringBody? cs = some (body, behind)) : behind.length < cs.length := by
  -- Strong induction on the length: each character takes text away
  induction hn : cs.length using Nat.strongRecOn generalizing cs body with
  | ind n ih =>
    unfold stringBody? at h
    split at h
    · cases h
    · next hc =>
      cases h
      exact hn ▸ length_stringChar?_lt hc
    · next c rest hc =>
      have first := length_stringChar?_lt hc
      simp only [Option.map_eq_some_iff, Prod.exists, Prod.mk.injEq] at h
      obtain ⟨b, d, hbody, -, rfl⟩ := h
      have := ih rest.length (by omega) hbody rfl
      omega

/-- The digits before the point of a number. A leading zero stands alone. -/
def wholePart (cs : List Char) : List Char :=
  match cs with
  | '0' :: _ => ['0']
  | _ => cs.takeWhile Char.isDigit

/-- The point and digits after the whole part, and what follows them. -/
def fractionPart (cs : List Char) : Option (List Char) × List Char :=
  match cs with
  | '.' :: rest =>
    match rest.takeWhile Char.isDigit with
    | [] => (none, cs)
    | digits => (some digits, rest.dropWhile Char.isDigit)
  | _ => (none, cs)

/-- The number at the front of a text without its sign, and what follows it. -/
def number? (negative : Bool) (cs : List Char) : Option (Except DocumentError Value × List Char) :=
  match wholePart cs with
  | [] => none
  | whole =>
    let (fraction, rest) := fractionPart (cs.drop whole.length)
    let (exponent, rest) :=
      match Decimal.exponent? rest with
      | some (exponent, rest) => (some exponent, rest)
      | none => (none, rest)
    if fraction.isNone && exponent.isNone then
      if DocumentError.maxIntDigits < whole.length then
        some (.error (.tooManyDigits whole.length), rest)
      else
        let n : Int := Decimal.digitsValue whole
        some (.ok (.int (if negative then -n else n)), rest)
    else some (.ok (.float (Decimal.Parts.toFloat ⟨negative, whole, fraction, exponent⟩)), rest)

/-- The words that stand for values. -/
def words : List (String × Value) :=
  [("null", .null), ("true", .bool true), ("false", .bool false), ("NaN", .float (0.0 / 0.0)),
    ("Infinity", .float (1.0 / 0.0)), ("-Infinity", .float (-1.0 / 0.0))]

/-- The word at the front of a text, and what follows it. -/
def word? (cs : List Char) : Option (Value × List Char) :=
  words.findSome? fun (word, value) => (after? word.toList cs).map fun rest => (value, rest)

/-- The token at the front of a text that begins with no blank, and what follows it. -/
def nextToken? (c : Char) (rest : List Char) : Option (Token × List Char) :=
  match c with
  | '[' => some (.openList, rest)
  | ']' => some (.closeList, rest)
  | '{' => some (.openTable, rest)
  | '}' => some (.closeTable, rest)
  | ',' => some (.comma, rest)
  | ':' => some (.colon, rest)
  | '"' =>
    (stringBody? rest).map fun (body, behind) =>
      (.scalar (.ok (.text (String.ofList body))), behind)
  | c =>
    match word? (c :: rest) with
    | some (value, behind) => some (.scalar (.ok value), behind)
    | none =>
      (if c = '-' then number? true rest else number? false (c :: rest)).map
        fun (value, behind) => (.scalar value, behind)

/-- The blanks that may stand between tokens. -/
def isSeparator (c : Char) : Bool :=
  c == ' ' || c == '\t' || c == '\n' || c == '\r'

/-- A list or a table that is not closed yet. -/
inductive Frame where
  /-- The items so far, the last one first. -/
  | list (items : List Value)
  /-- The entries so far, and the key of the value that comes next. -/
  | table (entries : Table Value) (key : String)

/-- What may come next. -/
inductive Expected where
  | value
  | valueOrClose
  | key (entries : Table Value)
  | keyOrClose
  | colon (entries : Table Value) (key : String)
  | separator
  | nothing (document : Value)

/-- Where the reading of a document stands. -/
structure State where
  frames : List Frame
  expected : Expected

/-- A value is complete and goes to the innermost open list or table. -/
def State.complete (frames : List Frame) (value : Value) : State :=
  match frames with
  | [] => ⟨[], .nothing value⟩
  | .list items :: outer => ⟨.list (value :: items) :: outer, .separator⟩
  | .table entries key :: outer => ⟨.table (entries.put key value) key :: outer, .separator⟩

/-- Takes one token. -/
def State.step (s : State) (token : Token) : Except DocumentError State :=
  match s.expected, token with
  | .value, .scalar value | .valueOrClose, .scalar value => value.map (complete s.frames)
  | .value, .openList | .valueOrClose, .openList => .ok ⟨.list [] :: s.frames, .valueOrClose⟩
  | .value, .openTable | .valueOrClose, .openTable => .ok ⟨s.frames, .keyOrClose⟩
  | .valueOrClose, .closeList =>
    match s.frames with
    | .list items :: outer => .ok (complete outer (.list items.reverse))
    | _ => .error .malformed
  -- an open table is pushed with its key, once the key is there
  | .keyOrClose, .scalar (.ok (.text key)) => .ok ⟨s.frames, .colon [] key⟩
  | .keyOrClose, .closeTable => .ok (complete s.frames (.table []))
  | .key entries, .scalar (.ok (.text key)) => .ok ⟨s.frames, .colon entries key⟩
  | .colon entries key, .colon => .ok ⟨.table entries key :: s.frames, .value⟩
  -- after a value: more of the innermost list or table, or its end
  | .separator, token =>
    match s.frames, token with
    | .list items :: outer, .comma => .ok ⟨.list items :: outer, .value⟩
    | .list items :: outer, .closeList => .ok (complete outer (.list items.reverse))
    | .table entries _ :: outer, .comma => .ok ⟨outer, .key entries⟩
    | .table entries _ :: outer, .closeTable => .ok (complete outer (.table entries))
    | _, _ => .error .malformed
  | _, _ => .error .malformed

/-- Reads on from a state to the end of the text. A token that took no text away would end the
reading. -/
def readFrom (s : State) (cs : List Char) : Except DocumentError Value :=
  match cs.dropWhile isSeparator with
  | [] =>
    match s.expected with
    | .nothing document => .ok document
    | _ => .error .malformed
  | c :: rest =>
    match nextToken? c rest with
    | none => .error .malformed
    | some (token, behind) =>
      match s.step token with
      | .error e => .error e
      | .ok s =>
        if behind.length < cs.length then readFrom s behind else .error .malformed
termination_by cs.length

/-- The value of a document. -/
def read (text : String) : Except DocumentError Value :=
  readFrom ⟨[], .value⟩ text.toList

end MakeAtlas.Json
