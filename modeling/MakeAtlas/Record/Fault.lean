import MakeAtlas.Value.Basic

/-!
# Faults of a record

What can be wrong with a value that is read as a record, where it stands, and how that is said.
-/

namespace MakeAtlas.Record

/-- What is wrong with a value. -/
inductive Cause where
  | missing
  | unknownKey
  | notText
  | notInt
  | intText
  | intTextTooLong
  | fractional
  | notFinite
  | atLeast (bound : Nat)
  | atMost (bound : Nat)
  | notNumber
  | numberText
  | notBool
  | boolText
  | notList
  | notTable
  | notRecord (title : String)
  /-- A record of one of several kinds was expected. -/
  | notVariant
  | notLiteral (allowed : List String)
  | notMember (allowed : List String)
  | tagMissing (key : String)
  | tagUnknown (tag key : String) (known : List String)
  /-- The value breaks a rule of its record. -/
  | rejected (reason : String)
  deriving DecidableEq, Repr

namespace Cause

/-- The short name of a cause. -/
def code : Cause → String
  | .missing => "missing"
  | .unknownKey => "extra_forbidden"
  | .notText => "string_type"
  | .notInt => "int_type"
  | .intText => "int_parsing"
  | .intTextTooLong => "int_parsing_size"
  | .fractional => "int_from_float"
  | .notFinite => "finite_number"
  | .atLeast _ => "greater_than_equal"
  | .atMost _ => "less_than_equal"
  | .notNumber => "float_type"
  | .numberText => "float_parsing"
  | .notBool => "bool_type"
  | .boolText => "bool_parsing"
  | .notList => "list_type"
  | .notTable => "dict_type"
  | .notRecord _ => "model_type"
  | .notVariant => "model_attributes_type"
  | .notLiteral _ => "literal_error"
  | .notMember _ => "enum"
  | .tagMissing _ => "union_tag_not_found"
  | .tagUnknown _ _ _ => "union_tag_invalid"
  | .rejected _ => "value_error"

/-- Words between single quotes. -/
def tick (word : String) : String :=
  "'" ++ word ++ "'"

/-- Alternatives, the last one after "or". -/
def alternatives : List String → String
  | [] => ""
  | [last] => tick last
  | [first, last] => tick first ++ " or " ++ tick last
  | first :: rest => tick first ++ ", " ++ alternatives rest

/-- The sentence that says what is wrong. -/
def message : Cause → String
  | .missing => "Field required"
  | .unknownKey => "Extra inputs are not permitted"
  | .notText => "Input should be a valid string"
  | .notInt => "Input should be a valid integer"
  | .intText => "Input should be a valid integer, unable to parse string as an integer"
  | .intTextTooLong => "Unable to parse input string as an integer, exceeded maximum size"
  | .fractional => "Input should be a valid integer, got a number with a fractional part"
  | .notFinite => "Input should be a finite number"
  | .atLeast bound => "Input should be greater than or equal to " ++ toString bound
  | .atMost bound => "Input should be less than or equal to " ++ toString bound
  | .notNumber => "Input should be a valid number"
  | .numberText => "Input should be a valid number, unable to parse string as a number"
  | .notBool => "Input should be a valid boolean"
  | .boolText => "Input should be a valid boolean, unable to interpret input"
  | .notList => "Input should be a valid list"
  | .notTable => "Input should be a valid dictionary"
  | .notRecord title => "Input should be a valid dictionary or instance of " ++ title
  | .notVariant => "Input should be a valid dictionary or object to extract fields from"
  | .notLiteral allowed => "Input should be " ++ alternatives allowed
  | .notMember allowed => "Input should be " ++ alternatives allowed
  | .tagMissing key => "Unable to extract tag using discriminator " ++ tick key
  | .tagUnknown tag key known =>
    "Input tag " ++ tick tag ++ " found using " ++ tick key ++
      " does not match any of the expected tags: " ++ String.intercalate ", " (known.map tick)
  | .rejected reason => "Value error, " ++ reason

end Cause

/-- A step from a record towards one of its parts. -/
inductive Step where
  | key (name : String)
  | index (n : Nat)
  deriving DecidableEq, Repr

/-- The text of a step. -/
def Step.text : Step → String
  | .key name => name
  | .index n => toString n

/-- Something wrong with a part of a record. -/
structure Fault where
  cause : Cause
  /-- The way from the record to the part. -/
  place : List Step
  /-- The part, or what holds the missing part. -/
  input : Value

namespace Fault

/-- The name of a value's type, as faults give it. -/
def typeName : Value → String
  | .null => "NoneType"
  | .bool _ => "bool"
  | .int _ => "int"
  | .float _ => "float"
  | .text _ => "str"
  | .moment _ => "date"
  | .list _ => "list"
  | .table _ => "dict"

/-- A text of more than fifty bytes is shown by its two ends. -/
def shorten (text : String) : String :=
  if text.utf8ByteSize ≤ 50 then text
  else
    let cs := text.toList
    String.ofList (cs.take 25) ++ "..." ++ String.ofList (cs.drop (cs.length - 24))

/-- A fault with all its details, and a note on its cause behind them. -/
def describe (note : Cause → String) (fault : Fault) : String :=
  let place :=
    if fault.place.isEmpty then ""
    else String.intercalate "." (fault.place.map Step.text) ++ "\n"
  place ++ "  " ++ fault.cause.message ++ " [type=" ++ fault.cause.code ++ ", input_value=" ++
    shorten fault.input.describe ++ ", input_type=" ++ typeName fault.input ++ "]" ++
    note fault.cause

end Fault

/-- The faults of a record, under its title. -/
structure Invalid where
  title : String
  faults : List Fault

namespace Invalid

/-- How many faults of which record. -/
def summary (e : Invalid) : String :=
  toString e.faults.length ++ " validation error" ++ (if e.faults.length = 1 then "" else "s") ++
    " for " ++ e.title

/-- All faults, one below the other, with a note on the cause of each. -/
def message (note : Cause → String) (e : Invalid) : String :=
  String.intercalate "\n" (e.summary :: e.faults.map (Fault.describe note))

end Invalid

end MakeAtlas.Record
