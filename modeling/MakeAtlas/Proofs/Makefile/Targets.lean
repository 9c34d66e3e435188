import MakeAtlas.Makefile.Rule
import MakeAtlas.Proofs.TableUpdates
import MakeAtlas.Proofs.Text.JoinedLines
import Mathlib.Data.List.TakeWhile

/-!
# The targets of a Makefile

A line defines a target if it is a name, directly followed by a colon that belongs to no assignment.
The targets of a Makefile are the names that its lines define, in the order of their first
definitions, each with the prerequisites of its last one.

## Key results

- `targetLine?_eq_some_iff`: what a target line looks like
- `listsTargets_targets`: the targets of a Makefile, said through its lines
- `targets_append`: the targets of two texts, one behind the other
-/

namespace MakeAtlas.Makefile

open MakeAtlas.Text

/-! ## Lines that define a target -/

/-- A line defines a target: it is a name of letters, digits, `_` and `-` that does not begin with
`_`, directly followed by a colon, and what follows makes it no assignment. -/
structure Defines (line : List Char) (name : String) (rest : List Char) : Prop where
  split : line = name.toList ++ ':' :: rest
  name_ne : name.toList ≠ []
  nameChars : ∀ c ∈ name.toList, c.isAlphanum = true ∨ c = '_' ∨ c = '-'
  shown : name.toList.head? ≠ some '_'
  notSet : ¬ ['='] <+: rest
  notSetOnce : ¬ [':', '='] <+: rest
  notSetAtOnce : ¬ [':', ':', '='] <+: rest

theorem isNameChar_iff {c : Char} :
    isNameChar c = true ↔ c.isAlphanum = true ∨ c = '_' ∨ c = '-' := by
  simp [isNameChar, or_assoc]

/-- A name holds no blank. -/
theorem isBlank_eq_false_of_isNameChar {c : Char} (h : isNameChar c = true) :
    isBlank c = false := by
  rcases isNameChar_iff.1 h with halphanum | rfl | rfl
  · exact isBlank_eq_false_of_isAlphanum halphanum
  · decide
  · decide

theorem isAssignment_eq_false_iff {rest : List Char} :
    isAssignment rest = false ↔
      ¬ ['='] <+: rest ∧ ¬ [':', '='] <+: rest ∧ ¬ [':', ':', '='] <+: rest := by
  rw [← Bool.not_eq_true, isAssignment, Bool.or_eq_true, Bool.or_eq_true, hasPrefix, hasPrefix,
    hasPrefix, List.isPrefixOf_iff_prefix, List.isPrefixOf_iff_prefix, List.isPrefixOf_iff_prefix,
    not_or, not_or, and_assoc]

/-- Of a name with a colon behind it, the name characters are the name. -/
theorem takeWhile_name {name : List Char} (h : ∀ c ∈ name, isNameChar c = true)
    (rest : List Char) : (name ++ ':' :: rest).takeWhile isNameChar = name := by
  rw [List.takeWhile_append_of_pos h, List.takeWhile_cons_of_neg (by decide), List.append_nil]

theorem dropWhile_name {name : List Char} (h : ∀ c ∈ name, isNameChar c = true)
    (rest : List Char) : (name ++ ':' :: rest).dropWhile isNameChar = ':' :: rest := by
  rw [List.dropWhile_append_of_pos h, List.dropWhile_cons_of_neg (by decide)]

/-- A line that defines a target is read as one. -/
theorem targetLine?_of_defines {line rest : List Char} {name : String}
    (h : Defines line name rest) : targetLine? line = some (name, dropSecondColon rest) := by
  have hname : ∀ c ∈ name.toList, isNameChar c = true := fun c hc =>
    isNameChar_iff.2 (h.nameChars c hc)
  have hassign : isAssignment rest = false :=
    isAssignment_eq_false_iff.2 ⟨h.notSet, h.notSetOnce, h.notSetAtOnce⟩
  rw [targetLine?, h.split, takeWhile_name hname, dropWhile_name hname]
  split
  · next hnil => exact absurd hnil h.name_ne
  · next hinternal => exact absurd (congrArg List.head? hinternal) h.shown
  · next hcolon _ _ =>
    cases hcolon
    rw [if_neg (by simp [hassign]), String.ofList_toList]
  · next hcolon => exact absurd rfl (hcolon rest)

/-- A target line is a name, a colon and a remainder that assigns nothing. -/
theorem targetLine?_eq_some_iff {line rest : List Char} {name : String} :
    targetLine? line = some (name, rest) ↔
      ∃ behind, Defines line name behind ∧ rest = dropSecondColon behind := by
  constructor
  · intro h
    have hsplit := List.takeWhile_append_dropWhile (p := isNameChar) (l := line)
    have hchars : ∀ c ∈ line.takeWhile isNameChar, isNameChar c = true := fun c hc =>
      List.mem_takeWhile_imp hc
    rw [targetLine?] at h
    split at h
    · cases h
    · cases h
    · next behind hcolon hne hshown =>
      split at h
      · cases h
      · next hassign =>
        cases h
        rw [Bool.not_eq_true, isAssignment_eq_false_iff] at hassign
        refine ⟨behind, ⟨?_, ?_, ?_, ?_, hassign.1, hassign.2.1, hassign.2.2⟩, rfl⟩
        · rw [String.toList_ofList, ← hcolon, hsplit]
        · rw [String.toList_ofList]
          exact hne
        · rw [String.toList_ofList]
          exact fun c hc => isNameChar_iff.1 (hchars c hc)
        · rw [String.toList_ofList]
          intro hhead
          obtain ⟨more, hmore⟩ := List.head?_eq_some_iff.1 hhead
          exact hshown _ hmore
    · cases h
  · rintro ⟨behind, hdefines, rfl⟩
    exact targetLine?_of_defines hdefines

/-! ## The targets of a text -/

/-- The target that a line defines, with its prerequisites. -/
def definition? (line : List Char) : Option (String × List String) :=
  (targetLine? line).map fun (name, rest) => (name, prerequisites rest)

theorem targets_eq (text : String) :
    targets text = Table.ofList ((lines text.toList).filterMap definition?) :=
  rfl

theorem definition?_eq_some_iff {line : List Char} {name : String} {found : List String} :
    definition? line = some (name, found) ↔
      ∃ rest, Defines line name rest ∧ found = prerequisites (dropSecondColon rest) := by
  constructor
  · intro h
    obtain ⟨⟨name', rest⟩, htarget, hentry⟩ := Option.map_eq_some_iff.1 h
    cases hentry
    obtain ⟨behind, hdefines, rfl⟩ := targetLine?_eq_some_iff.1 htarget
    exact ⟨behind, hdefines, rfl⟩
  · rintro ⟨rest, hdefines, rfl⟩
    rw [definition?, targetLine?_of_defines hdefines, Option.map_some]

/-- A line defines no target of a name if what it yields is under other names. -/
theorem not_defines_of_definition? {line : List Char} {name : String}
    (h : ∀ entry, definition? line = some entry → entry.1 ≠ name) (rest : List Char) :
    ¬ Defines line name rest := fun hdefines =>
  h _ (definition?_eq_some_iff.2 ⟨rest, hdefines, rfl⟩) rfl

/-- A table lists the targets that the lines of a text define. -/
structure ListsTargets (text : String) (found : Table (List String)) : Prop where
  /-- The names are those that some line defines, -/
  mem_iff : ∀ name, name ∈ found.keys ↔ ∃ line ∈ lines text.toList, ∃ rest, Defines line name rest
  /-- each one once, -/
  once : found.keys.Nodup
  /-- in the order of their first definitions. -/
  inOrder : found.keys.Pairwise fun name name' => ∃ before line after,
    lines text.toList = before ++ line :: after ∧ (∃ rest, Defines line name rest) ∧
      ∀ earlier ∈ before ++ [line], ∀ rest, ¬ Defines earlier name' rest
  /-- The prerequisites of a target are those of its last definition. -/
  last_iff : ∀ name prereqs, found.get? name = some prereqs ↔ ∃ before line after rest,
    lines text.toList = before ++ line :: after ∧ Defines line name rest ∧
      (∀ later ∈ after, ∀ rest', ¬ Defines later name rest') ∧
      prereqs = prerequisites (dropSecondColon rest)

private theorem inOrder_targets (text : String) :
    (targets text).keys.Pairwise fun name name' => ∃ before line after,
      lines text.toList = before ++ line :: after ∧ (∃ rest, Defines line name rest) ∧
        ∀ earlier ∈ before ++ [line], ∀ rest, ¬ Defines earlier name' rest := by
  rw [targets_eq, Table.keys_ofList, List.pairwise_map]
  refine (pairwise_distinctBy Prod.fst _).imp ?_
  rintro ⟨name, found⟩ ⟨name', found'⟩ ⟨before, after, hsplit, hnew⟩
  obtain ⟨front, line, behind, hlines, hline, hfront, -⟩ := filterMap_eq_append_cons hsplit
  obtain ⟨rest, hdefines, -⟩ := definition?_eq_some_iff.1 hline
  refine ⟨front, line, behind, hlines, ⟨rest, hdefines⟩, fun earlier hearlier => ?_⟩
  refine not_defines_of_definition? fun entry hentry => hnew entry ?_
  have hmem : entry ∈ (front ++ [line]).filterMap definition? :=
    List.mem_filterMap.2 ⟨earlier, hearlier, hentry⟩
  rwa [List.filterMap_append, hfront, List.filterMap_cons_some hline, List.filterMap_nil] at hmem

private theorem last_iff_targets (text : String) (name : String) (prereqs : List String) :
    (targets text).get? name = some prereqs ↔ ∃ before line after rest,
      lines text.toList = before ++ line :: after ∧ Defines line name rest ∧
        (∀ later ∈ after, ∀ rest', ¬ Defines later name rest') ∧
        prereqs = prerequisites (dropSecondColon rest) := by
  rw [targets_eq, Table.get?_ofList_eq_some_iff]
  constructor
  · rintro ⟨before, after, hsplit, hlast⟩
    obtain ⟨front, line, behind, hlines, hline, -, hbehind⟩ := filterMap_eq_append_cons hsplit
    obtain ⟨rest, hdefines, hfound⟩ := definition?_eq_some_iff.1 hline
    refine ⟨front, line, behind, rest, hlines, hdefines, fun later hlater => ?_, hfound⟩
    refine not_defines_of_definition? fun entry hentry => hlast entry ?_
    rw [← hbehind]
    exact List.mem_filterMap.2 ⟨later, hlater, hentry⟩
  · rintro ⟨before, line, after, rest, hlines, hdefines, hlast, rfl⟩
    refine ⟨before.filterMap definition?, after.filterMap definition?, ?_,
      fun entry hentry hname => ?_⟩
    · rw [hlines, List.filterMap_append,
        List.filterMap_cons_some (definition?_eq_some_iff.2 ⟨rest, hdefines, rfl⟩)]
    · obtain ⟨later, hlater, hentry⟩ := List.mem_filterMap.1 hentry
      obtain ⟨rest', hdefines', -⟩ := definition?_eq_some_iff.1 hentry
      exact hlast later hlater rest' (hname ▸ hdefines')

/-- The targets of a Makefile are those that its lines define. -/
theorem listsTargets_targets (text : String) : ListsTargets text (targets text) where
  mem_iff name := by
    rw [targets_eq, Table.mem_keys_ofList]
    constructor
    · rintro ⟨⟨_, found⟩, hentry, rfl⟩
      obtain ⟨line, hline, hyields⟩ := List.mem_filterMap.1 hentry
      obtain ⟨rest, hdefines, -⟩ := definition?_eq_some_iff.1 hyields
      exact ⟨line, hline, rest, hdefines⟩
    · rintro ⟨line, hline, rest, hdefines⟩
      have hyields := definition?_eq_some_iff.2 ⟨rest, hdefines, rfl⟩
      exact ⟨_, List.mem_filterMap.2 ⟨line, hline, hyields⟩, rfl⟩
  once := Table.nodup_keys_ofList _
  inOrder := inOrder_targets text
  last_iff := last_iff_targets text

/-- The targets of two texts with a line feed between them are those of the first one, updated by
those of the second one. -/
theorem targets_append (first second : String) :
    targets (first ++ "\n" ++ second) = (targets first).putAll (targets second) := by
  have htext : (first ++ "\n" ++ second).toList = first.toList ++ '\n' :: second.toList := by
    simp
  rw [targets_eq, htext, filterMap_lines_append rfl, Table.ofList_append]
  rfl

-- a later definition replaces the earlier one in its place
example : targets "build: a\ntest:\nbuild:: b c" = [("build", ["b", "c"]), ("test", [])] := by
  decide +kernel

end MakeAtlas.Makefile
