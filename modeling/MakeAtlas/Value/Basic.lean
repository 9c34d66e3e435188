import MakeAtlas.Table
import MakeAtlas.Text.Quoted
import MakeAtlas.Value.Decimal

/-!
# Data values

What a configuration document or a record in exchange format is made of. Tables keep their entries
in order. `describe` is the way a value is shown inside a message.
-/

namespace MakeAtlas

/-- A value of a data document. -/
inductive Value where
  | null
  | bool (b : Bool)
  | int (n : Int)
  | float (x : Float)
  | text (s : String)
  /-- A date or a time, as it is written. -/
  | moment (written : String)
  | list (items : List Value)
  | table (entries : List (String × Value))
  deriving Inhabited

namespace Value

mutual

/-- How a message shows a value. -/
def describe : Value → String
  | .null => "None"
  | .bool true => "True"
  | .bool false => "False"
  | .int n => toString n
  | .float x => Decimal.render x
  | .text s => Text.quoted s
  | .moment written => written
  | .list items => "[" ++ String.intercalate ", " (describeItems items) ++ "]"
  | .table entries => "\x7b" ++ String.intercalate ", " (describeEntries entries) ++ "\x7d"

/-- The items of a list as a message shows them. -/
def describeItems : List Value → List String
  | [] => []
  | item :: rest => describe item :: describeItems rest

/-- The entries of a table as a message shows them. -/
def describeEntries : List (String × Value) → List String
  | [] => []
  | (key, value) :: rest => (Text.quoted key ++ ": " ++ describe value) :: describeEntries rest

end

/-- A value that stands for itself in a message: texts are not quoted. -/
def describePlain : Value → String
  | .text s => s
  | value => value.describe

end Value

end MakeAtlas
