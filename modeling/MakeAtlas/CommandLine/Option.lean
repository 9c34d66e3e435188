import MakeAtlas.Text.Blank
import MakeAtlas.Text.Digits

/-!
# Options and operands

How the words of a command line are divided into options with their values and operands. An option
has long names, which may be cut short as long as one name fits, and names of one letter, which may
be written together. A value follows as the next word, behind an equals sign, or right behind the
letter. Whether two dashes in its place are a value, or leave the option without one, is not the same
for all command lines. Words after `--` are never options; neither are negative numbers and unknown
words with a blank in them.
-/

namespace MakeAtlas.CommandLine

open MakeAtlas.Text

/-- Why the reading of a command line ends early. -/
inductive Stop where
  /-- Help was asked for. -/
  | help
  /-- The words make no sense. -/
  | usage
  deriving DecidableEq, Repr

/-- What two dashes are that stand right behind an option's name. -/
inductive AttachedDashes where
  /-- The option's value. -/
  | value
  /-- No value. -/
  | nothing
  deriving DecidableEq, Repr

/-- How many values an option takes. -/
inductive Arity where
  | zero
  | one
  /-- One or more. -/
  | many
  deriving DecidableEq, Repr

/-- An option: its names with their dashes, what it stands for, and how many values it takes. -/
structure OptionRule (κ : Type) where
  names : List String
  key : κ
  arity : Arity

/-- What is written behind an option's name in the same word. -/
inductive Suffix where
  | nothing
  /-- A value behind a long name. -/
  | value (cs : List Char)
  /-- A value or more letters behind a letter. -/
  | letters (cs : List Char)
  deriving DecidableEq, Repr

/-- What a word is. -/
inductive WordKind (κ : Type) where
  | argument
  | separator
  | option (rule : OptionRule κ) (suffix : Suffix)
  | unknownOption

/-- A word and what it is. -/
abbrev Word (κ : Type) := String × WordKind κ

variable {κ σ : Type}

/-- The option with a name. -/
def ruleNamed? (rules : List (OptionRule κ)) (name : List Char) : Option (OptionRule κ) :=
  rules.find? fun rule => rule.names.contains (String.ofList name)

/-- The options for a long name that may be cut short, one for each name that fits. -/
def rulesFor (rules : List (OptionRule κ)) (start : List Char) : List (OptionRule κ) :=
  rules.flatMap fun rule =>
    (rule.names.filter fun name => hasPrefix start name.toList).map fun _ => rule

/-- Whether a word is a negative number. One line feed may stand at its end. -/
def isNegativeNumber (cs : List Char) : Bool :=
  match cs with
  | '-' :: rest =>
    let body := if rest.getLast? = some '\n' then rest.dropLast else rest
    match body.dropWhile isDecimal with
    | [] => !body.isEmpty
    | '.' :: fraction => !fraction.isEmpty && fraction.all isDecimal
    | _ => false
  | _ => false

/-- A word that is the name of no option. -/
def classifyUnknown (cs : List Char) : WordKind κ :=
  if isNegativeNumber cs || cs.contains ' ' then .argument else .unknownOption

/-- What a word that begins with two dashes is. -/
def classifyLong (rules : List (OptionRule κ)) (cs : List Char) : Except Stop (WordKind κ) :=
  let (start, suffix) :=
    match cut? '=' cs with
    | some (start, value) => (start, Suffix.value value)
    | none => (cs, .nothing)
  match rulesFor rules start with
  | [] => .ok (classifyUnknown cs)
  | [rule] => .ok (.option rule suffix)
  | _ => .error .usage

/-- What a word that begins with one dash and has a second character is. -/
def classifyShort (rules : List (OptionRule κ)) (cs : List Char) : WordKind κ :=
  match ruleNamed? rules (cs.take 2) with
  | some rule => .option rule (.letters (cs.drop 2))
  | none => classifyUnknown cs

/-- What a word before any separator is. -/
def classify (rules : List (OptionRule κ)) (word : String) : Except Stop (WordKind κ) :=
  match word.toList with
  | '-' :: second :: rest =>
    let cs := '-' :: second :: rest
    -- a full name counts first, then a full name with a value behind it
    match ruleNamed? rules cs with
    | some rule => .ok (.option rule .nothing)
    | none =>
      match (cut? '=' cs).bind fun (name, value) =>
          (ruleNamed? rules name).map fun rule => (rule, value) with
      | some (rule, value) =>
        .ok (.option rule (if second = '-' then .value value else .letters value))
      | none => if second = '-' then classifyLong rules cs else .ok (classifyShort rules cs)
  | _ => .ok .argument

/-- What the words of a command line are. -/
def classifyAll (rules : List (OptionRule κ)) : List String → Except Stop (List (Word κ))
  | [] => .ok []
  | word :: rest =>
    if word = "--" then .ok ((word, .separator) :: rest.map fun word => (word, .argument))
    else do
      let kind ← classify rules word
      let others ← classifyAll rules rest
      .ok ((word, kind) :: others)

/-- Whether a word may be a value or an operand. -/
def isArgument : Word κ → Bool
  | (_, .argument) => true
  | _ => false

/-- An option with its values. -/
abbrev Taken (κ : Type) := κ × List String

/-- Options with their values, and the words that follow them. -/
abbrev Reading (κ : Type) := List (Taken κ) × List (Word κ)

/-- The values that stand in the word of an option. -/
def attachedValues (dashes : AttachedDashes) (cs : List Char) : List String :=
  if dashes = .nothing ∧ cs = ['-', '-'] then [] else [String.ofList cs]

/-- Reads the values of an option from the words that follow it. -/
def takeValues (rule : OptionRule κ) (rest : List (Word κ)) : Except Stop (Reading κ) :=
  match rule.arity with
  | .zero => .ok ([(rule.key, [])], rest)
  | .one =>
    match rest with
    | (word, .argument) :: rest => .ok ([(rule.key, [word])], rest)
    | _ => .error .usage
  | .many =>
    match rest.takeWhile isArgument with
    | [] => .error .usage
    | values => .ok ([(rule.key, values.map Prod.fst)], rest.dropWhile isArgument)

/-- Reads an option whose value stands in its word. -/
def takeAttached (dashes : AttachedDashes) (rule : OptionRule κ) (cs : List Char)
    (rest : List (Word κ)) : Except Stop (Reading κ) :=
  if rule.arity = .zero then .error .usage
  else .ok ([(rule.key, attachedValues dashes cs)], rest)

/-- Reads an option with the characters right behind its letter. They are its value, or else the
letters of more options. -/
def takeLetters (dashes : AttachedDashes) (rules : List (OptionRule κ)) (rule : OptionRule κ)
    (rest : List (Word κ)) : List Char → Except Stop (Reading κ)
  | [] => takeAttached dashes rule [] rest
  | letter :: more =>
    if rule.arity = .zero then
      match ruleNamed? rules ['-', letter] with
      | none => .error .usage
      | some next =>
        let reading :=
          if more.isEmpty then takeValues next rest else takeLetters dashes rules next rest more
        reading.map fun (taken, rest) => ((rule.key, []) :: taken, rest)
    else takeAttached dashes rule (letter :: more) rest

/-- Reads an option with its values. -/
def takeOption (dashes : AttachedDashes) (rules : List (OptionRule κ)) (rule : OptionRule κ)
    (suffix : Suffix) (rest : List (Word κ)) : Except Stop (Reading κ) :=
  match suffix with
  | .nothing => takeValues rule rest
  | .value cs => takeAttached dashes rule cs rest
  | .letters cs => takeLetters dashes rules rule rest cs

/-- A command or the program itself: its options, what they do, and which words its operand
takes. -/
structure Level (σ κ : Type) where
  rules : List (OptionRule κ)
  act : σ → Taken κ → Except Stop σ
  operand : List (Word κ) → List String × List (Word κ)

/-- How far a command line has been read. -/
structure Progress (σ : Type) where
  state : σ
  operand : Option (List String) := none
  /-- Whether a word had no use. -/
  unused : Bool := false

/-- Reads the words of a command line from left to right. A word that takes no word away would end
the reading. -/
def Level.run (level : Level σ κ) (dashes : AttachedDashes) (words : List (Word κ))
    (progress : Progress σ) : Except Stop (Progress σ) :=
  match words with
  | [] => .ok progress
  | (word, kind) :: rest =>
    match kind with
    | .unknownOption => level.run dashes rest { progress with unused := true }
    | .option rule suffix =>
      match takeOption dashes level.rules rule suffix rest with
      | .error stop => .error stop
      | .ok (taken, more) =>
        match taken.foldlM level.act progress.state with
        | .error stop => .error stop
        | .ok state =>
          if more.length < rest.length + 1 then level.run dashes more { progress with state }
          else .error .usage
    -- an argument, or the separator, which may stand before the operand
    | kind =>
      if progress.operand.isSome then level.run dashes rest { progress with unused := true }
      else
        let (taken, more) := level.operand ((word, kind) :: rest)
        if more.length < rest.length + 1 then
          level.run dashes more { progress with operand := some taken }
        else .error .usage
termination_by words.length

/-- An operand that takes all words that are left. -/
def allWords (words : List (Word κ)) : List String × List (Word κ) :=
  (words.map Prod.fst, [])

/-- A separator at the front is passed over. -/
def dropSeparator : List (Word κ) → List (Word κ)
  | (_, .separator) :: rest => rest
  | words => words

/-- An operand that takes one word, with the separators before or after it. -/
def oneWord (words : List (Word κ)) : List String × List (Word κ) :=
  match dropSeparator words with
  | (word, .argument) :: rest => ([word], dropSeparator rest)
  | rest => ([], rest)

end MakeAtlas.CommandLine
