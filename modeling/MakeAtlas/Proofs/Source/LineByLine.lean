import MakeAtlas.Proofs.Source.BareTexts
import MakeAtlas.Proofs.Source.LineEnds
import MakeAtlas.Proofs.Text.JoinedLines
import Mathlib.Data.List.DropRight

/-!
# Sources line by line

A text without comments and literals is searched line by line, unless a directive runs over the end
of its line: blanks of a directive and its path may go on over line feeds, and what a path takes in
is not searched for directives. A directive that runs over and has no path does not matter, as
nothing but blanks is taken in.

## Key results

- `reportedFrom_lines`: where no directive leaves the first line, the others are searched alone
- `exists_reportedFrom_of_leavesLine`: where one does, an include is reported that no line has
- `runsOver_line_iff`: a directive runs over the end of the first line, or of a later one
- `includes_eq_lineByLine_iff`: when the includes of a text are those of its lines
- `later_line_swallowed`: a directive that is not closed takes in the next one
-/

namespace MakeAtlas.Source

open MakeAtlas.Text

/-! ## Reporting -/

/-- What is reported for a directive that is found, if its path is more than blanks. -/
def report? : List Char × Nat → Option Include := fun (path, line) =>
  match trim path with
  | [] => none
  | path => some ⟨String.ofList path, line⟩

/-- What is reported from a place of a scrubbed text on. -/
def reportedFrom (number : Nat) (lineStart : Bool) (cs : List Char) : List Include :=
  (includesFrom number lineStart cs).filterMap report?

theorem report?_eq_some {path : List Char} (h : trim path ≠ []) (number : Nat) :
    report? (path, number) = some ⟨String.ofList (trim path), number⟩ := by
  simp only [report?]

theorem report?_eq_none {path : List Char} (h : trim path = []) (number : Nat) :
    report? (path, number) = none := by
  simp only [report?, h]

/-! ## Lines that a directive leaves -/

/-- The directive on a line, which has a path, is closed behind the line. -/
def LeavesLine (line rest : List Char) : Prop :=
  ∃ lead path behind, directiveAt? (line ++ '\n' :: rest) = some (lead, path, behind) ∧
    trim path ≠ [] ∧ '#' ∈ line ∧ '\n' ∈ lead ++ path

theorem isBlank_of_trim_eq_nil {cs : List Char} (h : trim cs = []) :
    ∀ c ∈ cs, isBlank c = true := by
  obtain ⟨blanks, hcs, hblanks⟩ := exists_of_trimLeft cs
  have hrest : ∀ c ∈ trimLeft cs, isBlank c = true := List.rdropWhile_eq_nil_iff.1 h
  intro c hc
  rw [hcs, List.mem_append] at hc
  exact hc.elim (hblanks c) (hrest c)

/-- Where no directive leaves its line, what is reported for the line and what is reported for the
    others come behind each other. -/
theorem reportedFrom_lines {line rest : List Char} (h : '\n' ∉ line)
    (hstays : ¬ LeavesLine line rest) (number : Nat) :
    reportedFrom number true (line ++ '\n' :: rest) =
      reportedFrom number true line ++ reportedFrom (number + 1) true rest := by
  simp only [reportedFrom, ← List.filterMap_append]
  cases hdirective : directiveAt? (line ++ '\n' :: rest) with
  | none =>
    have hnone : directiveAt? line = none := by
      rw [Option.eq_none_iff_forall_ne_some]
      rintro ⟨lead, path, behind⟩ hfound
      cases hdirective.symm.trans (directiveAt?_append hfound _)
    rw [includesFrom_lines h (by rw [hdirective, hnone]; rfl)]
  | some found =>
    obtain ⟨lead, path, behind⟩ := found
    rcases directiveAt?_line_cases hdirective with
      ⟨more, rfl, hline⟩ | ⟨mark, more, htaken, rfl, hmark, hnone⟩
    · rw [includesFrom_lines h (by rw [hdirective, hline]; rfl)]
    · -- the directive goes on behind the line, so the line alone has none
      rw [includesFrom_line h, hnone, Option.toList_none, List.map_nil, List.nil_append]
      by_cases hhash : '#' ∈ line
      · -- it has no path, and then it takes in no `#` of another line
        have hpath : trim path = [] := by
          by_contra hne
          exact hstays ⟨lead, path, behind, hdirective, hne, hhash, by rw [htaken]; simp⟩
        have hmore : '#' ∉ more := by
          refine not_mem_behind_line ?_ hhash
          rw [← htaken, List.count_append,
            (directiveAt?_eq_some_iff_lead.1 hdirective).1.count_hash,
            count_hash_of_blank (isBlank_of_trim_eq_nil hpath)]
        rw [includesFrom_over h hdirective htaken hmark hmore,
          List.filterMap_cons_none (report?_eq_none hpath _)]
      · -- it stands on a later line, and this one is blank
        rw [includesFrom_of_not_mem hhash]
        simp [List.count_eq_zero.2 h]

/-- Where a directive leaves its line, the first include is reported with the number of that line,
    or with a later one up to which no line has a `#`. -/
theorem exists_reportedFrom_of_leavesLine {line rest : List Char} (h : '\n' ∉ line)
    (hleaves : LeavesLine line rest) (number : Nat) :
    directiveAt? line = none ∧ ∃ i more,
      reportedFrom number true (line ++ '\n' :: rest) = i :: more ∧
      (i.line = number ∨ ∃ front mark behind, rest = front ++ mark :: behind ∧ '#' ∉ front ∧
        (mark = '<' ∨ mark = '"') ∧ i.line = number + 1 + front.count '\n') := by
  obtain ⟨lead, path, behind, hdirective, hpath, hhash, hends⟩ := hleaves
  obtain ⟨⟨indent, gap, opens, hlead, hindent, hgap, hopens⟩, closes, hcs, -⟩ :=
    directiveAt?_eq_some_iff_lead.1 hdirective
  have hnone : directiveAt? line = none := by
    rcases directiveAt?_line_cases hdirective with ⟨more, -, hline⟩ | ⟨_, _, -, -, -, hnone⟩
    · obtain ⟨-, mark, rfl, -⟩ := directiveAt?_eq_some_iff_lead.1 hline
      exact absurd (List.mem_append_left _ hends) h
    · exact hnone
  refine ⟨hnone, ⟨String.ofList (trim path), number + lead.count '\n'⟩, ?_, ?_, ?_⟩
  · exact (includesFrom (number + lead.count '\n' + path.count '\n') false behind).filterMap report?
  · rw [reportedFrom, includesFrom_of_directive hdirective,
      List.filterMap_cons_some (report?_eq_some hpath _)]
  · -- the mark that opens the path is on the line of the `#` or behind it
    have hsplit : (indent ++ '#' :: gap) ++ opens :: (path ++ closes :: behind) =
        line ++ '\n' :: rest := by
      rw [hcs, hlead]
      simp
    have hlines : lead.count '\n' = (indent ++ '#' :: gap).count '\n' := by
      rcases hopens with rfl | rfl <;> simp [hlead]
    have hhashes : (indent ++ '#' :: gap).count '#' = 1 := by
      rw [← (directiveAt?_eq_some_iff_lead.1 hdirective).1.count_hash, hlead]
      rcases hopens with rfl | rfl <;> simp
    dsimp only
    rw [hlines]
    rcases append_eq_append_cons hsplit with ⟨more, rfl, -⟩ | ⟨more, hfront, hrest⟩
    · rw [List.mem_append, not_or] at h
      exact Or.inl (by rw [List.count_eq_zero.2 h.1, Nat.add_zero])
    · refine Or.inr ⟨more, opens, _, hrest, not_mem_behind_line (hfront ▸ hhashes) hhash, hopens,
        ?_⟩
      rw [hfront, List.count_append, List.count_eq_zero.2 h, List.count_cons_self]
      omega

/-- A directive of a text, which has a path, runs over the end of its line: a line feed stands
between its `#` and the mark that opens its path, or in the path. -/
def RunsOver (cs : List Char) : Prop :=
  ∃ front gap mark rest path, cs = front ++ '#' :: (gap ++ mark :: rest) ∧ EndsIndented front ∧
    IsInclude gap ∧ (mark = '<' ∨ mark = '"') ∧ IsClosedPath rest path ∧ trim path ≠ [] ∧
    '\n' ∈ gap ++ path

theorem startsLine_line_iff {line front : List Char} :
    StartsLine (line ++ '\n' :: front) ↔ StartsLine front := by
  rcases List.eq_nil_or_concat front with rfl | ⟨front, c, rfl⟩
  · simp [StartsLine]
  · rw [List.concat_eq_append, StartsLine, StartsLine, ← List.cons_append, ← List.append_assoc,
      List.getLast?_concat, List.getLast?_concat]

/-- Behind a line feed a line starts. -/
theorem endsIndented_line_iff {line front : List Char} :
    EndsIndented (line ++ '\n' :: front) ↔ EndsIndented front := by
  constructor
  · rintro ⟨above, indent, hsplit, habove, hindent⟩
    rcases append_eq_append_cons hsplit.symm with ⟨more, rfl, rfl⟩ | ⟨more, rfl, rfl⟩
    · exact ⟨[], front, rfl, startsLine_nil, fun c hc => hindent c (by simp [hc])⟩
    · exact ⟨more, indent, rfl, startsLine_line_iff.1 habove, hindent⟩
  · rintro ⟨above, indent, rfl, habove, hindent⟩
    exact ⟨line ++ '\n' :: above, indent, by simp, startsLine_line_iff.2 habove, hindent⟩

theorem runsOver_line_iff {line rest : List Char} (h : '\n' ∉ line) :
    RunsOver (line ++ '\n' :: rest) ↔ LeavesLine line rest ∨ RunsOver rest := by
  constructor
  · rintro ⟨front, gap, opens, tail, path, hcs, hindented, hgap, hopens, hpath, htrim, hends⟩
    rcases append_eq_append_cons hcs with ⟨more, rfl, hmore⟩ | ⟨more, rfl, -⟩
    · cases more with
      | nil => cases hmore
      | cons c more =>
        cases hmore
        exact Or.inr ⟨more, gap, opens, tail, path, rfl, endsIndented_line_iff.1 hindented, hgap,
          hopens, hpath, htrim, hends⟩
    · left
      have hindent : ∀ c ∈ front, isBlank c = true :=
        @EndsIndented.isBlank [] front hindented fun hmem => h (List.mem_append_left _ hmem)
      obtain ⟨hne, closes, behind, rfl, hchars, hcloses⟩ := hpath
      refine ⟨front ++ '#' :: (gap ++ [opens]), path, behind, ?_, htrim, by simp, ?_⟩
      · exact directiveAt?_eq_some_iff.2 ⟨front, gap, opens, _, hcs, rfl, hindent, hgap, hopens,
          closedPath?_eq_some_iff.2 ⟨closes, rfl, hne, hchars, hcloses⟩⟩
      · rcases List.mem_append.1 hends with hends | hends <;> simp [hends]
  · rintro (⟨lead, path, behind, hdirective, htrim, hhash, hends⟩ | hruns)
    · obtain ⟨indent, gap, opens, tail, hcs, rfl, hindent, hgap, hopens, hclosed⟩ :=
        directiveAt?_eq_some_iff.1 hdirective
      obtain ⟨closes, htail, hne, hchars, hcloses⟩ := closedPath?_eq_some_iff.1 hclosed
      refine ⟨indent, gap, opens, tail, path, hcs, ⟨[], indent, rfl, startsLine_nil, hindent⟩, hgap,
        hopens, ⟨hne, closes, behind, htail, hchars, hcloses⟩, htrim, ?_⟩
      have hline : '\n' ∉ indent := by
        rcases append_eq_append_cons hcs with ⟨more, rfl, -⟩ | ⟨more, rfl, -⟩
        · exact absurd (hindent '#' (by simp [hhash])) (by decide)
        · exact fun hmem => h (List.mem_append_left _ hmem)
      rcases hopens with rfl | rfl <;> simpa [hline] using hends
    · obtain ⟨front, gap, opens, tail, path, rfl, hindented, hrest⟩ := hruns
      exact ⟨line ++ '\n' :: front, gap, opens, tail, path, by simp,
        endsIndented_line_iff.2 hindented, hrest⟩

/-! ## Line by line -/

/-- What is reported for each line alone, with the number of the line. -/
def lineByLine (number : Nat) : List (List Char) → List Include
  | [] => []
  | line :: lines =>
    (includes (String.ofList line)).map (fun i => { i with line := number }) ++
      lineByLine (number + 1) lines

section

variable {line cs : List Char} {number : Nat} {i : Include}

/-- What is reported for one line of a bare text alone. -/
theorem IsBare.map_includes (hbare : IsBare true line) (h : '\n' ∉ line) (number : Nat) :
    (includes (String.ofList line)).map (fun i => { i with line := number }) =
      reportedFrom number true line := by
  have hincludes : includes (String.ofList line) = reportedFrom 1 true line := by
    have hscrubbed : scrubFrom true (String.ofList line).toList = line := by
      rw [String.toList_ofList, hbare.scrubFrom_eq]
    exact congrArg (reportedFrom 1 true) hscrubbed
  rw [hincludes, reportedFrom, reportedFrom, includesFrom_line h, includesFrom_line h]
  cases directiveAt? line with
  | none => rfl
  | some found =>
    obtain ⟨lead, path, behind⟩ := found
    by_cases hpath : trim path = []
    · simp [report?_eq_none hpath]
    · simp [report?_eq_some hpath]

theorem IsBare.map_includes_eq_nil (hbare : IsBare true line) (h : '\n' ∉ line)
    (hnone : directiveAt? line = none) (number : Nat) :
    (includes (String.ofList line)).map (fun i => { i with line := number }) = [] := by
  rw [hbare.map_includes h, reportedFrom, includesFrom_line h, hnone]
  rfl

theorem le_line_of_mem_lineByLine {lines : List (List Char)} (h : i ∈ lineByLine number lines) :
    number ≤ i.line := by
  induction lines generalizing number with
  | nil => cases h
  | cons line lines ih =>
    rcases List.mem_append.1 h with h | h
    · obtain ⟨j, -, rfl⟩ := List.mem_map.1 h
      exact Nat.le_refl _
    · exact Nat.le_of_succ_le (ih h)

/-- On lines without a `#`, and on a line that starts with anything but blanks and a `#`, nothing is
    reported. -/
theorem lt_line_of_mem_lineByLine {front behind : List Char} {mark : Char}
    (hbare : IsBare true cs) (hcs : cs = front ++ mark :: behind) (hfront : '#' ∉ front)
    (hblank : isBlank mark = false) (hmark : mark ≠ '#')
    (hi : i ∈ lineByLine number (newlineParts cs)) : number + front.count '\n' < i.line := by
  induction cs using lineInduction generalizing number front with
  | last line h =>
    rw [newlineParts_of_not_mem h, lineByLine, lineByLine, hbare.map_includes_eq_nil h] at hi
    · cases hi
    · rw [hcs]
      exact directiveAt?_eq_none hfront hblank hmark
  | more line rest h ih =>
    obtain ⟨hline, hrest⟩ := hbare.of_append h
    rw [newlineParts_line h, lineByLine] at hi
    rcases append_eq_append_cons hcs with ⟨more, rfl, hmore⟩ | ⟨more, rfl, -⟩
    · -- the mark is on a later line
      cases more with
      | nil =>
        cases hmore
        exact absurd hblank (by decide)
      | cons c more =>
        cases hmore
        simp only [List.mem_append, List.mem_cons, not_or] at hfront
        rw [hline.map_includes_eq_nil h (directiveAt?_of_not_mem hfront.1), List.nil_append] at hi
        have := ih hrest rfl hfront.2.2 hi
        rw [List.count_append, List.count_eq_zero.2 h, List.count_cons_self]
        omega
    · rw [hline.map_includes_eq_nil h (directiveAt?_eq_none hfront hblank hmark), List.nil_append]
        at hi
      have := le_line_of_mem_lineByLine hi
      rw [List.mem_append, not_or] at h
      rw [List.count_eq_zero.2 h.1]
      omega

theorem mem_of_mem_trim {cs : List Char} {c : Char} (h : c ∈ trim cs) : c ∈ cs :=
  (List.dropWhile_suffix _).subset ((List.rdropWhile_prefix _ _).subset h)

/-- No path that is reported for one line has a line feed in it. -/
theorem not_mem_path_of_mem_reportedFrom (h : '\n' ∉ line)
    (hi : i ∈ reportedFrom number true line) : '\n' ∉ i.path.toList := by
  rw [reportedFrom, includesFrom_line h] at hi
  obtain ⟨found, hfound, hreport⟩ := List.mem_filterMap.1 hi
  obtain ⟨⟨lead, path, behind⟩, hdirective, rfl⟩ := List.mem_map.1 hfound
  obtain ⟨-, mark, rfl, -⟩ :=
    directiveAt?_eq_some_iff_lead.1 (Option.mem_toList.1 hdirective)
  by_cases hpath : trim path = []
  · cases (report?_eq_none hpath number).symm.trans hreport
  · cases (report?_eq_some hpath number).symm.trans hreport
    rw [String.toList_ofList]
    exact fun hmem => h (by simp [mem_of_mem_trim hmem])

theorem not_mem_path_of_mem_lineByLine (hbare : IsBare true cs)
    (hi : i ∈ lineByLine number (newlineParts cs)) : '\n' ∉ i.path.toList := by
  induction cs using lineInduction generalizing number with
  | last line h =>
    rw [newlineParts_of_not_mem h, lineByLine, lineByLine, List.append_nil,
      hbare.map_includes h] at hi
    exact not_mem_path_of_mem_reportedFrom h hi
  | more line rest h ih =>
    obtain ⟨hline, hrest⟩ := hbare.of_append h
    rw [newlineParts_line h, lineByLine, hline.map_includes h] at hi
    exact (List.mem_append.1 hi).elim (not_mem_path_of_mem_reportedFrom h) (ih hrest)

/-- Of a bare text, the includes of its lines are reported if and only if no directive runs over the
    end of its line. -/
theorem IsBare.reportedFrom_eq_iff (hbare : IsBare true cs) (number : Nat) :
    reportedFrom number true cs = lineByLine number (newlineParts cs) ↔ ¬ RunsOver cs := by
  induction cs using lineInduction generalizing number with
  | last line h =>
    rw [newlineParts_of_not_mem h, lineByLine, lineByLine, List.append_nil, hbare.map_includes h]
    refine iff_of_true rfl ?_
    -- a directive that runs over takes in a line feed
    rintro ⟨front, gap, opens, rest, path, rfl, -, -, -, ⟨-, closes, behind, rfl, -⟩, -, hends⟩
    rcases List.mem_append.1 hends with hends | hends <;> exact h (by simp [hends])
  | more line rest h ih =>
    obtain ⟨hline, hrest⟩ := hbare.of_append h
    rw [newlineParts_line h, lineByLine, runsOver_line_iff h]
    by_cases hleaves : LeavesLine line rest
    · refine iff_of_false (fun hlaw => ?_) (fun hstays => hstays (Or.inl hleaves))
      -- the line alone has no include, so the first one would have to be that of a later line,
      -- but its number is too low
      obtain ⟨hnone, i, more, hfirst, hnumber⟩ :=
        exists_reportedFrom_of_leavesLine h hleaves number
      rw [hfirst, hline.map_includes_eq_nil h hnone, List.nil_append] at hlaw
      have hi : i ∈ lineByLine (number + 1) (newlineParts rest) := by
        rw [← hlaw]
        exact List.mem_cons_self
      rcases hnumber with hnumber | ⟨front, opens, behind, rfl, hfront, hopens, hnumber⟩
      · have := le_line_of_mem_lineByLine hi
        omega
      · have hmark : isBlank opens = false ∧ opens ≠ '#' := by
          rcases hopens with rfl | rfl <;> decide
        have := lt_line_of_mem_lineByLine hrest rfl hfront hmark.1 hmark.2 hi
        omega
    · rw [reportedFrom_lines h hleaves, hline.map_includes h, List.append_cancel_left_eq, ih hrest,
        or_iff_right hleaves]

end

/-- The includes of a text without comments and literals are those of its lines, in order, each with
    the number of its line, if and only if no directive with a path runs over the end of its line.
    If none does, no path that is reported has a line feed in it. -/
theorem includes_eq_lineByLine_iff (text : String) (h : IsBare true text.toList) :
    (includes text = lineByLine 1 (newlineParts text.toList) ↔ ¬ RunsOver text.toList) ∧
      (¬ RunsOver text.toList → ∀ i ∈ includes text, '\n' ∉ i.path.toList) := by
  have hincludes : includes text = reportedFrom 1 true text.toList :=
    congrArg (reportedFrom 1 true) h.scrubFrom_eq
  have hlaw := h.reportedFrom_eq_iff 1
  rw [hincludes]
  refine ⟨hlaw, fun hstays i hi => ?_⟩
  rw [hlaw.2 hstays] at hi
  exact not_mem_path_of_mem_lineByLine h hi

/-- Two directives, and one that is not closed at all. -/
private def separate : String := "#include <a>\n\t# include \"b.h\"\n#include <c\n"

/-- No directive of this text runs over the end of its line. -/
theorem includes_eq_lineByLine_iff_separate :
    includes separate = [⟨"a", 1⟩, ⟨"b.h", 2⟩] ∧ ¬ RunsOver separate.toList ∧
      ∀ i ∈ includes separate, '\n' ∉ i.path.toList := by
  have hbare : IsBare true separate.toList := by decide +kernel
  have hlaw : includes separate = lineByLine 1 (newlineParts separate.toList) := by decide +kernel
  obtain ⟨hiff, hpaths⟩ := includes_eq_lineByLine_iff separate hbare
  exact ⟨by decide +kernel, hiff.1 hlaw, hpaths (hiff.1 hlaw)⟩

/-- A directive whose path is not closed, in front of a line that closes it. -/
private def unclosed : String := "#include <a\n#include <b>\n"

/-- The first directive of this text runs over the end of its line, and the path that is reported
    for it takes the second directive in. Alone, only the second line has an include. -/
theorem later_line_swallowed :
    IsBare true unclosed.toList ∧ includes unclosed = [⟨"a\n#include <b", 1⟩] ∧
      lineByLine 1 (newlineParts unclosed.toList) = [⟨"b", 2⟩] := by
  decide +kernel

end MakeAtlas.Source
