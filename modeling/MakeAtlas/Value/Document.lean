/-!
# Documents

What every reader of a data document has in common: why a text is not a document.
-/

namespace MakeAtlas

/-- Why a text is not a document. -/
inductive DocumentError where
  | malformed
  /-- A whole number with this many digits, more than can be read. -/
  | tooManyDigits (count : Nat)
  deriving DecidableEq, Repr

namespace DocumentError

/-- The most digits that a whole number may have. -/
def maxIntDigits : Nat := 4300

/-- What is said of a whole number that cannot be read. -/
def tooManyDigitsMessage (count : Nat) : String :=
  "Exceeds the limit (" ++ toString maxIntDigits ++
    " digits) for integer string conversion: value has " ++ toString count ++
    " digits; use sys.set_int_max_str_digits() to increase the limit"

end DocumentError

end MakeAtlas
