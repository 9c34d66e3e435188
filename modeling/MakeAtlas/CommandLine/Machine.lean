import MakeAtlas.Markup.Table
import MakeAtlas.Settings.Source

/-!
# The machine behind a command line

What a request hangs on besides the disk and the compilers: whose home folders are known, what the
console makes of what it is given, and how deep the calls of a program may be nested. Any of them
may leave a request without an answer. What is noted on faulty values only adds to what is said.
-/

namespace MakeAtlas.CommandLine

/-- Why something cannot be shown. -/
inductive ShowFault where
  /-- A text is marked up in a way that cannot be shown. -/
  | markup (fault : Markup.Fault)
  /-- Whatever else the console says. -/
  | device (reason : String)
  deriving DecidableEq, Repr

/-- What is said about something that cannot be shown. -/
def ShowFault.message : ShowFault → String
  | .markup fault => fault.message
  | .device reason => reason

/-- Where answers are shown. -/
structure Console where
  /-- The rows of a table as they are drawn, given its columns of marked-up cells. -/
  table : List (List String) → Except ShowFault (List (List String))
  /-- Shows a document. -/
  document : Value → Except ShowFault Unit

/-- A console that reads the parameters of handlers in a certain way and shows every document. -/
def Console.ofReader (reader : Markup.ParameterReader) : Console where
  table columns := (Markup.drawnRows reader columns).mapError .markup
  document _ := .ok ()

/-- How deep calls may be nested, for what is done by calls within calls. -/
structure Stack where
  /-- Whether a document can be read, for all the lists and tables that stand in one another. -/
  reads : Settings.Document → Bool
  /-- Whether so many folders, each in the next one, can be made. -/
  makes : Nat → Bool

/-- A stack that never runs out. -/
def Stack.endless : Stack where
  reads _ := true
  makes _ := true

/-- A machine. -/
structure Machine where
  /-- The home folder of a user. The user at work has the empty name. -/
  home? : String → Option String
  console : Console
  stack : Stack
  /-- A note that is added to a faulty value's description, such as where its cause is explained. -/
  note : Record.Cause → String

/-- The home folder of a user. What begins with `~` is none. -/
def Machine.homeNamed? (m : Machine) (name : List Char) : Option (List Char) :=
  ((m.home? (String.ofList name)).map String.toList).filter fun home => home.head? != some '~'

/-- The user in whose home folder a path begins, written `~` and the name, and the steps from there
on. No name has a NUL in it. -/
def tilde? (path : String) : Option (List Char × List (List Char)) :=
  match Path.isAnchored path.toList, Path.steps path.toList with
  | false, ('~' :: name) :: rest => if name.contains '\x00' then none else some (name, rest)
  | _, _ => none

/-- A path with the home folder of a user in the place of `~` and the name, if the machine knows
it. -/
def Machine.expand? (m : Machine) (path : String) : Option String :=
  match tilde? path with
  | none => some path
  | some (name, rest) =>
    (m.homeNamed? name).map fun home =>
      String.ofList (Text.dropEndWhile (· == '/') home ++ '/' :: Path.joinSteps rest)

end MakeAtlas.CommandLine
