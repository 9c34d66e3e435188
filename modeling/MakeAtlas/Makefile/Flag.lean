import MakeAtlas.Distinct
import MakeAtlas.Text.Blank

/-!
# Include flags

An include flag is `-I` with a path: quoted, or a run of characters that are neither blank nor a
quote; spaces and tabs may stand between. The flag begins at the start of the text or after a blank,
an equals sign or a quote. The text is searched from the left, and the search goes on behind each
flag.

`allFlags` drops paths that are empty or hold a `$`; `flags` keeps the first flag of each path.
A flag never goes beyond its line.
-/

namespace MakeAtlas.Makefile

open MakeAtlas.Text

/-- An include search path and the number, from one, of the line on which its flag begins. -/
structure Flag where
  path : String
  line : Nat
  deriving DecidableEq, Repr

/-- The characters of a path without quotes. -/
def isBareChar (c : Char) : Bool :=
  !isBlank c && c != '"' && c != '\''

/-- The path right after a flag, and what follows it. -/
def flagPath? (cs : List Char) : Option (List Char × List Char) :=
  match cs with
  | '"' :: rest => cutInLine? '"' rest
  | '\'' :: rest => cutInLine? '\'' rest
  | _ =>
    match cs.takeWhile isBareChar with
    | [] => none
    | path => some (path, cs.dropWhile isBareChar)

/-- Whether a flag may begin after this character. -/
def startsFlag : Option Char → Bool
  | none => true
  | some c => isBlank c || c == '=' || c == '"' || c == '\''

/-- The flag that begins here: its path, and what follows it. -/
def flagAt? (previous : Option Char) (cs : List Char) : Option (List Char × List Char) :=
  if startsFlag previous then
    (after? ['-', 'I'] cs).bind fun rest => flagPath? (rest.dropWhile isInlineBlank)
  else none

theorem length_le_of_flagPath? {cs path behind : List Char}
    (h : flagPath? cs = some (path, behind)) : behind.length ≤ cs.length := by
  unfold flagPath? at h
  split at h
  · exact Nat.le_succ_of_le (Nat.le_of_lt (length_cutInLine?_lt h))
  · exact Nat.le_succ_of_le (Nat.le_of_lt (length_cutInLine?_lt h))
  · split at h
    · simp at h
    · simp only [Option.some.injEq, Prod.mk.injEq] at h
      rw [← h.2]
      exact (List.dropWhile_suffix _).length_le

theorem length_lt_of_flagAt? {previous : Option Char} {cs path behind : List Char}
    (h : flagAt? previous cs = some (path, behind)) : behind.length < cs.length := by
  unfold flagAt? at h
  split at h
  · obtain ⟨rest, hafter, hpath⟩ := Option.bind_eq_some_iff.1 h
    have h1 := length_lt_of_after? hafter (by simp)
    have h2 := length_le_of_flagPath? hpath
    have h3 := (List.dropWhile_suffix (l := rest) isInlineBlank).length_le
    omega
  · simp at h

/-- All flags from a place on, given the character before it and the number of its line. -/
def flagsFrom (previous : Option Char) (line : Nat) (cs : List Char) : List (List Char × Nat) :=
  match cs with
  | [] => []
  | c :: rest =>
    match h : flagAt? previous (c :: rest) with
    | some (path, behind) =>
      have : behind.length < rest.length + 1 := length_lt_of_flagAt? h
      -- whether a flag may follow directly depends on the last character of this one
      let passed := (c :: rest).take ((c :: rest).length - behind.length)
      (path, line) :: flagsFrom passed.getLast? line behind
    | none => flagsFrom (some c) (if c = '\n' then line + 1 else line) rest
termination_by cs.length

/-- Every usable flag of a text, repeated ones included. -/
def allFlags (text : String) : List Flag :=
  (flagsFrom none 1 text.toList).filterMap fun (path, line) =>
    let path := trim path
    if path.isEmpty || path.contains '$' then none else some ⟨String.ofList path, line⟩

/-- The include flags of a Makefile, one for each path. -/
def flags (text : String) : List Flag :=
  distinctBy Flag.path (allFlags text)

end MakeAtlas.Makefile
