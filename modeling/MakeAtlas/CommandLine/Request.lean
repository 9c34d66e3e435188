import MakeAtlas.CommandLine.Option
import MakeAtlas.Record.Number
import MakeAtlas.Toolchain.Mode
import MakeAtlas.Value.Document

/-!
# Requests

What a command line asks for: one of four commands on a workspace, with the options of the command
and those that stand before it.
-/

namespace MakeAtlas.CommandLine

open MakeAtlas.Text

/-- What an option was given. -/
inductive Given (α : Type) where
  /-- The option does not occur. -/
  | absent
  /-- The option occurs without a value. -/
  | blank
  | value (a : α)
  deriving DecidableEq, Repr

/-- The value that is there. -/
def Given.toOption {α : Type} : Given α → Option α
  | .value a => some a
  | _ => none

/-- What to do with a workspace. -/
inductive Command where
  /-- List its nodes, in a file if one is named. -/
  | nodes (output : Option String)
  /-- List its dependencies, perhaps only those of some projects. -/
  | deps (output : Option String) (changed : Option (List String))
  /-- Write its graph to a file, or show a table of its projects. -/
  | scan (output : Option String)
  /-- Report cycles of dependencies, up to a limit. -/
  | cycles (limit : Int) (failOnCycle : Bool)
  deriving DecidableEq, Repr

/-- The name of a command. -/
def Command.name : Command → String
  | .nodes _ => "nodes"
  | .deps _ _ => "deps"
  | .scan _ => "scan"
  | .cycles _ _ => "cycles"

/-- A command with the workspace and the settings it is for. -/
structure Request where
  config : Given String
  mode : Given ScanMode
  maxFiles : Given Int
  workspace : String
  command : Command
  deriving DecidableEq, Repr

/-- The options. -/
inductive OptionKey where
  | help
  | verbose
  | config
  | compiler
  | maxFiles
  | output
  | changed
  | limit
  | failOnCycle
  deriving DecidableEq, Repr

/-- The values of the options that have been read. -/
structure OptionValues where
  config : Given String := .absent
  mode : Given ScanMode := .absent
  maxFiles : Given Int := .absent
  output : Option String := none
  changed : Option (List String) := none
  limit : Int := 20
  failOnCycle : Bool := false

/-- The whole number that a word stands for. Spaces around it do not count, and a single underscore
may separate digits, which may be of any script. -/
def intOfWord? (word : String) : Option Int :=
  let (negative, digits) := Record.splitSign (Record.trimSpaces word.toList)
  (Record.dropUnderscores? digits).bind fun digits =>
    (digits.mapM decimalValue?).bind fun values =>
      if DocumentError.maxIntDigits < values.length then none
      else
        let n : Nat := values.foldl (fun n value => 10 * n + value) 0
        some (if negative then -(n : Int) else n)

/-- Reads the value of an option that takes one. -/
def givenBy {α : Type} (read : String → Option α) : List String → Except Stop (Given α)
  | [] => .ok .blank
  | value :: _ =>
    match read value with
    | some a => .ok (.value a)
    | none => .error .usage

/-- What an option does. -/
def act (v : OptionValues) : Taken OptionKey → Except Stop OptionValues
  | (.help, _) => .error .help
  | (.verbose, _) => .ok v
  | (.config, values) => do .ok { v with config := ← givenBy some values }
  | (.compiler, values) => do .ok { v with mode := ← givenBy ScanMode.ofName? values }
  | (.maxFiles, values) => do .ok { v with maxFiles := ← givenBy intOfWord? values }
  | (.output, values) => do .ok { v with output := (← givenBy some values).toOption }
  | (.changed, values) => .ok { v with changed := some values }
  -- nothing limits what is reported if the limit has no value, as if it were zero
  | (.limit, values) => do .ok { v with limit := (← givenBy intOfWord? values).toOption.getD 0 }
  | (.failOnCycle, _) => .ok { v with failOnCycle := true }

/-- The option that asks for help. -/
def helpRule : OptionRule OptionKey := ⟨["-h", "--help"], .help, .zero⟩

/-- The option for a file to write to. -/
def outputRule : OptionRule OptionKey := ⟨["-o", "--output"], .output, .one⟩

/-- The options before the command, and the command with all that follows it. -/
def programLevel : Level OptionValues OptionKey where
  rules :=
    [helpRule, ⟨["-v", "--verbose"], .verbose, .zero⟩, ⟨["-c", "--config"], .config, .one⟩,
      ⟨["--compiler"], .compiler, .one⟩, ⟨["--max-files"], .maxFiles, .one⟩]
  act
  operand := allWords

/-- The options of a command and its workspace. -/
def commandLevel (rules : List (OptionRule OptionKey)) : Level OptionValues OptionKey where
  rules := helpRule :: rules
  act
  operand := oneWord

/-- The options of each command, and the command for their values. -/
def commands : List (String × List (OptionRule OptionKey) × (OptionValues → Command)) :=
  [("nodes", [outputRule], fun v => .nodes v.output),
    ("deps", [outputRule, ⟨["--changed"], .changed, .many⟩], fun v => .deps v.output v.changed),
    ("scan", [outputRule], fun v => .scan v.output),
    ("cycles", [⟨["--limit"], .limit, .one⟩, ⟨["--fail-on-cycle"], .failOnCycle, .zero⟩],
      fun v => .cycles v.limit v.failOnCycle)]

/-- Reads words at a level, starting from some values. -/
def readLevel (level : Level OptionValues OptionKey) (dashes : AttachedDashes)
    (values : OptionValues) (words : List String) : Except Stop (Progress OptionValues) :=
  match classifyAll level.rules words with
  | .ok words => level.run dashes words { state := values }
  | .error stop => .error stop

/-- The workspace that is meant if none is named. -/
def defaultWorkspace : String := "."

/-- What a command line asks for; without a command, for nothing. -/
def request (dashes : AttachedDashes) (words : List String) : Except Stop (Option Request) := do
  let program ← readLevel programLevel dashes {} words
  match program.operand with
  | none => if program.unused then .error .usage else .ok none
  | some [] => .error .usage
  | some (name :: words) =>
    match commands.lookup name with
    | none => .error .usage
    | some (rules, command) =>
      -- the command reads its own options from the words behind its name
      let local_ ← readLevel (commandLevel rules) dashes {} words
      if program.unused || local_.unused then .error .usage
      else
        .ok <| some
          { config := program.state.config
            mode := program.state.mode
            maxFiles := program.state.maxFiles
            workspace := (local_.operand.bind List.head?).getD defaultWorkspace
            command := command local_.state }

end MakeAtlas.CommandLine
