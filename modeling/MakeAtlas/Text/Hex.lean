/-!
# Hexadecimal digits

* `length_hexNumber?`   a number of so many digits takes just as many characters
-/

namespace MakeAtlas.Text

/-- A hexadecimal digit in lower case. -/
def hexDigit (n : Nat) : Char :=
  (Nat.toDigits 16 n).getLastD '0'

/-- A number in exactly `width` hexadecimal digits. -/
def hexDigits : (width : Nat) → Nat → List Char
  | 0, _ => []
  | width + 1, n => hexDigits width (n / 16) ++ [hexDigit (n % 16)]

/-- The value of a hexadecimal digit. -/
def hexValue? (c : Char) : Option Nat :=
  if '0' ≤ c && c ≤ '9' then some (c.toNat - '0'.toNat)
  else if 'a' ≤ c && c ≤ 'f' then some (c.toNat - 'a'.toNat + 10)
  else if 'A' ≤ c && c ≤ 'F' then some (c.toNat - 'A'.toNat + 10)
  else none

/-- The number that `width` hexadecimal digits at the front of a text stand for, after digits of the
value `high`, and what follows them. -/
def hexNumberFrom? (high : Nat) : (width : Nat) → List Char → Option (Nat × List Char)
  | 0, cs => some (high, cs)
  | _ + 1, [] => none
  | width + 1, c :: rest =>
    (hexValue? c).bind fun digit => hexNumberFrom? (high * 16 + digit) width rest

/-- The number that `width` hexadecimal digits at the front of a text stand for, and what follows
them. -/
def hexNumber? (width : Nat) (cs : List Char) : Option (Nat × List Char) :=
  hexNumberFrom? 0 width cs

theorem length_hexNumberFrom? {high width : Nat} {cs rest : List Char} {n : Nat}
    (h : hexNumberFrom? high width cs = some (n, rest)) : rest.length + width = cs.length := by
  induction width generalizing high cs with
  | zero =>
    simp only [hexNumberFrom?, Option.some.injEq, Prod.mk.injEq] at h
    simp [h.2]
  | succ width ih =>
    cases cs with
    | nil => simp [hexNumberFrom?] at h
    | cons c more =>
      obtain ⟨_, -, h⟩ := Option.bind_eq_some_iff.1 h
      have := ih h
      simp only [List.length_cons]
      omega

theorem length_hexNumber? {width : Nat} {cs rest : List Char} {n : Nat}
    (h : hexNumber? width cs = some (n, rest)) : rest.length + width = cs.length :=
  length_hexNumberFrom? h

end MakeAtlas.Text
