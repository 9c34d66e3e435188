import MakeAtlas.Record.Fault
import MakeAtlas.Record.Number

/-!
# Reading records

A reading is a value or everything that is wrong with it: parts are read one by one, in the order
of the record, and the faults of all of them are reported together.

A part has a key and may have a second name. The key wins if both are given. A fault is placed
under the name that was used, a missing part under the key.

* `both_ok_iff`      two parts are read together if each of them is
* `andThen_ok_iff`   a reading goes on only if nothing was wrong
-/

namespace MakeAtlas.Record

variable {α β γ : Type}

/-- A value, or the faults that stand in its way. -/
inductive Reading (α : Type) where
  | ok (a : α)
  | faulty (faults : List Fault)

namespace Reading

/-- A fault of the value itself. -/
def fault (cause : Cause) (input : Value) : Reading α :=
  .faulty [⟨cause, [], input⟩]

/-- What was found in a value, or why nothing was. -/
def ofExcept (found : Except Cause α) (input : Value) : Reading α :=
  match found with
  | .ok a => .ok a
  | .error cause => fault cause input

/-- Puts the faults of a reading at a step below. -/
def below (step : Step) : Reading α → Reading α
  | .ok a => .ok a
  | .faulty faults => .faulty (faults.map fun f => ⟨f.cause, step :: f.place, f.input⟩)

/-- Applies a function to what was read. -/
def map (f : α → β) : Reading α → Reading β
  | .ok a => .ok (f a)
  | .faulty faults => .faulty faults

/-- Reads two parts; faults of the first come first. -/
def both : Reading (α → β) → Reading α → Reading β
  | .ok f, .ok a => .ok (f a)
  | .ok _, .faulty second => .faulty second
  | .faulty first, .ok _ => .faulty first
  | .faulty first, .faulty second => .faulty (first ++ second)

/-- Goes on with what was read, if nothing is wrong with it. -/
def andThen : Reading α → (α → Reading β) → Reading β
  | .ok a, next => next a
  | .faulty faults, _ => .faulty faults

/-- A rule that is checked once all parts are there. -/
def check (rule : α → Option String) (input : Value) (reading : Reading α) : Reading α :=
  reading.andThen fun a =>
    match rule a with
    | some reason => fault (.rejected reason) input
    | none => .ok a

instance : Functor Reading where
  map := map

instance : Applicative Reading where
  pure := ok
  seq f a := both f (a ())

theorem map_ok_iff {f : α → β} {a : Reading α} {b : β} :
    map f a = .ok b ↔ ∃ x, a = .ok x ∧ f x = b := by
  cases a <;> simp [map]

theorem both_ok_iff {f : Reading (α → β)} {a : Reading α} {b : β} :
    both f a = .ok b ↔ ∃ g x, f = .ok g ∧ a = .ok x ∧ g x = b := by
  cases f <;> cases a <;> simp [both]

theorem andThen_ok_iff {a : Reading α} {next : α → Reading β} {b : β} :
    andThen a next = .ok b ↔ ∃ x, a = .ok x ∧ next x = .ok b := by
  cases a <;> simp [andThen]

end Reading

/-! ## Single values -/

/-- A text. -/
def text : Value → Reading String
  | .text s => .ok s
  | v => .fault .notText v

/-- A whole number, also one written as a text, a truth value or a double without fraction. -/
def int : Value → Reading Int
  | .int n => .ok n
  | .bool b => .ok (if b then 1 else 0)
  | .text s => .ofExcept (intOfText s.toList) (.text s)
  | .float x => .ofExcept (intOfFloat x) (.float x)
  | v => .fault .notInt v

/-- A whole number between two bounds; no upper bound means any size. -/
def intBetween (low : Nat) (high : Option Nat) (v : Value) : Reading Nat :=
  (int v).andThen fun n =>
    match high.filter fun (bound : Nat) => (bound : Int) < n with
    | some bound => .fault (.atMost bound) v
    | none => if n < low then .fault (.atLeast low) v else .ok n.toNat

/-- A number. -/
def float : Value → Reading Float
  | .float x => .ok x
  | .bool b => .ok (if b then 1.0 else 0.0)
  | .int n =>
    match floatOfInt? n with
    | some x => .ok x
    | none => .fault .notNumber (.int n)
  | .text s =>
    match floatOfText? s.toList with
    | some x => .ok x
    | none => .fault .numberText (.text s)
  | v => .fault .notNumber v

/-- A number between two bounds. What is not comparable is above the upper bound. -/
def floatBetween (low high : Nat) (v : Value) : Reading Float :=
  (float v).andThen fun x =>
    -- stated by what is not the case, so that a number that compares with nothing fails here
    if !(x ≤ Float.ofNat high) then .fault (.atMost high) v
    else if !(Float.ofNat low ≤ x) then .fault (.atLeast low) v
    else .ok x

/-- A truth value written as a whole number. Only a small number can be meant as one. -/
def boolOfInt (n : Int) : Except Cause Bool :=
  if n = 0 then .ok false
  else if n = 1 then .ok true
  else if isSmall n then .error .boolText
  else .error .notBool

/-- A truth value, also one written as zero or one or in words. -/
def bool : Value → Reading Bool
  | .bool b => .ok b
  | .text s =>
    match boolOfText? s with
    | some b => .ok b
    | none => .fault .boolText (.text s)
  | .int n => .ofExcept (boolOfInt n) (.int n)
  | .float x =>
    match intOfFloat x with
    | .ok n => .ofExcept (boolOfInt n) (.float x)
    | .error _ => .fault .notBool (.float x)
  | v => .fault .notBool v

/-- One of several words. -/
def oneOf (choices : List (String × α)) (cause : List String → Cause) (v : Value) : Reading α :=
  let found :=
    match v with
    | .text s => choices.lookup s
    | _ => none
  match found with
  | some a => .ok a
  | none => .fault (cause (choices.map Prod.fst)) v

/-- A value that may be absent. -/
def nullable (read : Value → Reading α) : Value → Reading (Option α)
  | .null => .ok none
  | v => (read v).map some

/-- Reads items one by one, given the number of the first. -/
def items (read : Value → Reading α) : (start : Nat) → List Value → Reading (List α)
  | _, [] => .ok []
  | n, v :: rest =>
    List.cons <$> (read v).below (.index n) <*> items read (n + 1) rest

/-- A list. -/
def list (read : Value → Reading α) : Value → Reading (List α)
  | .list vs => items read 0 vs
  | v => .fault .notList v

/-- Reads the entries of a table one by one. -/
def entries (read : Value → Reading α) : List (String × Value) → Reading (List (String × α))
  | [] => .ok []
  | (key, v) :: rest =>
    (fun a rest => (key, a) :: rest) <$> (read v).below (.key key) <*> entries read rest

/-- A table in which every value has the same kind. -/
def table (read : Value → Reading α) : Value → Reading (Table α)
  | .table es => entries read es
  | v => .fault .notTable v

/-- A table of any values. -/
def anyTable : Value → Reading (Table Value)
  | .table es => .ok es
  | v => .fault .notTable v

/-! ## Records -/

/-- The names of a part. -/
structure Part where
  key : String
  name : String := key

/-- The name under which a part is given, and its value. -/
def Part.find? (part : Part) (es : Table Value) : Option (String × Value) :=
  match es.get? part.key with
  | some v => some (part.key, v)
  | none => (es.get? part.name).map fun v => (part.name, v)

/-- A part that must be given. -/
def required (es : Table Value) (part : Part) (read : Value → Reading α) : Reading α :=
  match part.find? es with
  | some (name, v) => (read v).below (.key name)
  | none => (Reading.fault .missing (.table es)).below (.key part.key)

/-- A part with a default. -/
def withDefault (es : Table Value) (part : Part) (default : α) (read : Value → Reading α) :
    Reading α :=
  match part.find? es with
  | some (name, v) => (read v).below (.key name)
  | none => .ok default

/-- Refuses every key that no part has used. -/
def noOtherKeys (es : Table Value) (parts : List Part) : Reading Unit :=
  let used := parts.filterMap fun part => (part.find? es).map Prod.fst
  match es.filter fun e => !used.contains e.1 with
  | [] => .ok ()
  | others => .faulty (others.map fun e => ⟨.unknownKey, [.key e.1], e.2⟩)

/-- Reads a record from the table of its parts. -/
def record (title : String) (read : Table Value → Reading α) : Value → Reading α
  | .table es => read es
  | v => .fault (.notRecord title) v

/-- Reads a document as a record. -/
def parse (title : String) (read : Value → Reading α) (v : Value) : Except Invalid α :=
  match read v with
  | .ok a => .ok a
  | .faulty faults => .error ⟨title, faults⟩

end MakeAtlas.Record
