import MakeAtlas.Text.Blank

/-!
# Dependency listings

What a compiler prints when it is asked for the headers of a source: a target, a colon and paths,
with lines continued by a backslash at their end. In a path a backslash takes the next character
literally, and two dollars stand for one. A text without a colon lists nothing.

* `length_token_le`   reading a token takes text away
-/

namespace MakeAtlas.Source.Depfile

open MakeAtlas.Text

/-- Continued lines are joined by a blank. -/
def joinContinued : List Char → List Char
  | [] => []
  | '\\' :: '\r' :: '\n' :: rest => ' ' :: joinContinued rest
  | '\\' :: '\n' :: rest => ' ' :: joinContinued rest
  | c :: rest => c :: joinContinued rest

/-- The token at the front of a text with its escapes resolved, and what follows it. A backslash
before a line feed or at the very end is no part of a token. -/
def token : List Char → List Char × List Char
  | [] => ([], [])
  | ['\\'] => ([], ['\\'])
  -- an escaped character belongs to the token, blanks included
  | '\\' :: c :: rest =>
    if c = '\n' then ([], '\\' :: c :: rest)
    else (c :: (token rest).1, (token rest).2)
  | c :: rest =>
    if isBlank c then ([], c :: rest)
    else (c :: (token rest).1, (token rest).2)

theorem length_token_le (cs : List Char) :
    (token cs).2.length + (token cs).1.length ≤ cs.length := by
  fun_induction token cs with
  | case1 => simp
  | case2 => simp
  | case3 => simp
  | case4 c rest _ ih =>
    simp only [List.length_cons]
    omega
  | case5 => simp
  | case6 c rest _ _ _ ih =>
    simp only [List.length_cons]
    omega

/-- Two dollars in a row become one. -/
def mergeDollars : List Char → List Char
  | [] => []
  | '$' :: '$' :: rest => '$' :: mergeDollars rest
  | c :: rest => c :: mergeDollars rest

theorem length_token_lt {c : Char} {rest : List Char} (h : (token (c :: rest)).1 ≠ []) :
    (token (c :: rest)).2.length < rest.length + 1 := by
  have := length_token_le (c :: rest)
  have := List.length_pos_iff.2 h
  rw [List.length_cons] at *
  omega

/-- The tokens of a text; characters that begin no token are passed over. -/
def tokens (cs : List Char) : List (List Char) :=
  match cs with
  | [] => []
  | c :: rest =>
    match h : (token (c :: rest)).1 with
    | [] => tokens rest
    | first :: more =>
      have := length_token_lt (h ▸ List.cons_ne_nil first more)
      (first :: more) :: tokens (token (c :: rest)).2
termination_by cs.length

/-- The paths that a dependency listing names after its target. -/
def paths (output : String) : List String :=
  match cut? ':' (joinContinued output.toList) with
  | none => []
  | some (_, rest) => (tokens rest).map fun token => String.ofList (mergeDollars token)

end MakeAtlas.Source.Depfile
