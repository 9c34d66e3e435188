import MakeAtlas.Source.Scrub

/-!
# Include directives

The directives of a C or C++ source, read from its scrubbed text. Between the start of a line and
the `#`, and around the word `include`, any blanks may stand, line feeds included; the path reaches
up to the next `"` or `>`, whichever mark opened it. The search goes on behind each directive.

* `length_directiveAt?_lt`   a directive takes text away
-/

namespace MakeAtlas.Source

open MakeAtlas.Text

/-- An included path and the number, from one, of the line on which it begins. -/
structure Include where
  path : String
  line : Nat
  deriving DecidableEq, Repr

/-- Whether a character may stand in an included path. -/
def isPathChar (c : Char) : Bool :=
  c != '"' && c != '>'

/-- What follows the opening mark of a path. -/
def afterOpening? : List Char → Option (List Char)
  | '<' :: rest => some rest
  | '"' :: rest => some rest
  | _ => none

/-- A path that is not empty, and what follows its closing mark. -/
def closedPath? (cs : List Char) : Option (List Char × List Char) :=
  match cs.dropWhile isPathChar with
  | [] => none
  | _ :: behind =>
    let path := cs.takeWhile isPathChar
    if path.isEmpty then none else some (path, behind)

/-- The directive at the front of a text: what stands before its path, the path, and what follows
the closing mark. -/
def directiveAt? (cs : List Char) : Option (List Char × List Char × List Char) := do
  let rest ← after? ['#'] (trimLeft cs)
  let rest ← after? "include".toList (trimLeft rest)
  let rest ← afterOpening? (trimLeft rest)
  let (path, behind) ← closedPath? rest
  some (cs.take (cs.length - rest.length), path, behind)

theorem length_trimLeft_le (cs : List Char) : (trimLeft cs).length ≤ cs.length :=
  (List.dropWhile_suffix _).length_le

theorem length_afterOpening?_lt {cs rest : List Char} (h : afterOpening? cs = some rest) :
    rest.length < cs.length := by
  unfold afterOpening? at h
  split at h
  · cases h
    exact Nat.lt_succ_self _
  · cases h
    exact Nat.lt_succ_self _
  · cases h

theorem length_closedPath?_lt {cs path behind : List Char}
    (h : closedPath? cs = some (path, behind)) : behind.length < cs.length := by
  have shorter := (List.dropWhile_suffix (l := cs) isPathChar).length_le
  unfold closedPath? at h
  split at h
  · cases h
  · next hdrop =>
    rw [hdrop, List.length_cons] at shorter
    dsimp only at h
    split at h
    · cases h
    · cases h
      omega

theorem length_directiveAt?_lt {cs lead path behind : List Char}
    (h : directiveAt? cs = some (lead, path, behind)) : behind.length < cs.length := by
  simp only [directiveAt?, Option.bind_eq_bind] at h
  obtain ⟨first, h1, h⟩ := Option.bind_eq_some_iff.1 h
  obtain ⟨second, h2, h⟩ := Option.bind_eq_some_iff.1 h
  obtain ⟨third, h3, h⟩ := Option.bind_eq_some_iff.1 h
  obtain ⟨⟨p, b⟩, h4, h⟩ := Option.bind_eq_some_iff.1 h
  cases h
  have l1 := length_lt_of_after? h1 (by simp)
  have l2 := length_lt_of_after? h2 (by simp)
  have l3 := length_afterOpening?_lt h3
  have l4 := length_closedPath?_lt h4
  have l5 := length_trimLeft_le cs
  have l6 := length_trimLeft_le first
  have l7 := length_trimLeft_le second
  show b.length < cs.length
  omega

/-- The directives from a place on, given the number of its line and whether a line starts there. -/
def includesFrom (line : Nat) (lineStart : Bool) (cs : List Char) : List (List Char × Nat) :=
  match cs with
  | [] => []
  | c :: rest =>
    match h : if lineStart then directiveAt? (c :: rest) else none with
    | some (lead, path, behind) =>
      have : behind.length < rest.length + 1 := by
        split at h
        · exact length_directiveAt?_lt h
        · simp at h
      -- line feeds may stand before the path and in it
      let start := line + lead.count '\n'
      (path, start) :: includesFrom (start + path.count '\n') false behind
    | none => includesFrom (if c = '\n' then line + 1 else line) (c == '\n') rest
termination_by cs.length

/-- The include directives of a source in order, with paths trimmed and empty ones dropped. -/
def includes (text : String) : List Include :=
  (includesFrom 1 true (scrubFrom true text.toList)).filterMap fun (path, line) =>
    match trim path with
    | [] => none
    | path => some ⟨String.ofList path, line⟩

end MakeAtlas.Source
