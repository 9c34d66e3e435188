import MakeAtlas.Proofs.Source.Reported

/-!
# Directives and the ends of lines

Within a line nothing is found, so what is found on the first line of a scrubbed text is the
directive at its start. Blanks of a directive and its path may go on over line feeds: a directive
that is not closed on its line is closed by the next mark that comes. If it is closed on its line,
or the line has none, the other lines are searched as if they were alone.

## Key results

- `directiveAt?_eq_some_iff_lead`: a directive is told by its own characters
- `directiveAt?_line_cases`: a directive is closed on its line, or the line alone has none
- `includesFrom_line`, `includesFrom_lines`: what is found on one line, and on the first of several
- `includesFrom_over`: what is found if the directive of the first line is closed behind it
-/

namespace MakeAtlas.Source

open MakeAtlas.Text

/-! ## Directives and lines -/

/-- What stands in front of the path of a directive, from the start of its line on. -/
def IsLead (lead : List Char) : Prop :=
  ∃ indent gap mark, lead = indent ++ '#' :: (gap ++ [mark]) ∧
    (∀ c ∈ indent, isBlank c = true) ∧ IsInclude gap ∧ (mark = '<' ∨ mark = '"')

/-- A directive is told by its own characters. -/
theorem directiveAt?_eq_some_iff_lead {cs lead path behind : List Char} :
    directiveAt? cs = some (lead, path, behind) ↔
      IsLead lead ∧ ∃ mark, cs = lead ++ path ++ mark :: behind ∧ path ≠ [] ∧
        (∀ c ∈ path, isPathChar c = true) ∧ isPathChar mark = false := by
  rw [directiveAt?_eq_some_iff]
  constructor
  · rintro ⟨indent, gap, opens, rest, rfl, rfl, hindent, hgap, hopens, hclosed⟩
    obtain ⟨closes, rfl, hpath⟩ := closedPath?_eq_some_iff.1 hclosed
    exact ⟨⟨indent, gap, opens, rfl, hindent, hgap, hopens⟩, closes, by simp, hpath⟩
  · rintro ⟨⟨indent, gap, opens, rfl, hindent, hgap, hopens⟩, closes, rfl, hpath⟩
    exact ⟨indent, gap, opens, _, by simp, rfl, hindent, hgap, hopens,
      closedPath?_eq_some_iff.2 ⟨closes, rfl, hpath⟩⟩

/-- A directive is found whatever is behind it. -/
theorem directiveAt?_append {cs lead path behind : List Char}
    (h : directiveAt? cs = some (lead, path, behind)) (more : List Char) :
    directiveAt? (cs ++ more) = some (lead, path, behind ++ more) := by
  obtain ⟨hlead, mark, rfl, hpath⟩ := directiveAt?_eq_some_iff_lead.1 h
  exact directiveAt?_eq_some_iff_lead.2 ⟨hlead, mark, by simp, hpath⟩

theorem eq_of_isPathChar_eq_false {c : Char} (h : isPathChar c = false) : c = '"' ∨ c = '>' := by
  by_contra hmark
  simp [isPathChar, not_or.1 hmark] at h

theorem count_hash_of_blank {cs : List Char} (h : ∀ c ∈ cs, isBlank c = true) :
    cs.count '#' = 0 :=
  List.count_eq_zero.2 fun hmem => absurd (h _ hmem) (by decide)

theorem IsLead.count_hash {lead : List Char} (h : IsLead lead) : lead.count '#' = 1 := by
  obtain ⟨indent, gap, mark, rfl, hindent, ⟨first, second, rfl, hfirst, hsecond⟩, hmark⟩ := h
  rcases hmark with rfl | rfl <;>
    simp [count_hash_of_blank hindent, count_hash_of_blank hfirst, count_hash_of_blank hsecond]

/-- The only `#` of a text is not behind the line that has it. -/
theorem not_mem_behind_line {line more : List Char} (hcount : (line ++ '\n' :: more).count '#' = 1)
    (hhash : '#' ∈ line) : '#' ∉ more := by
  rw [List.count_append, List.count_cons_of_ne (by decide)] at hcount
  have := List.count_pos_iff.2 hhash
  exact List.count_eq_zero.1 (by omega)

/-- A directive that starts on a line ends there, or the line alone has none. -/
theorem directiveAt?_line_cases {line rest lead path behind : List Char}
    (h : directiveAt? (line ++ '\n' :: rest) = some (lead, path, behind)) :
    (∃ more, behind = more ++ '\n' :: rest ∧ directiveAt? line = some (lead, path, more)) ∨
      ∃ mark more, lead ++ path = line ++ '\n' :: more ∧ rest = more ++ mark :: behind ∧
        isPathChar mark = false ∧ directiveAt? line = none := by
  obtain ⟨hlead, mark, hcs, hpath, hchars, hmark⟩ := directiveAt?_eq_some_iff_lead.1 h
  rcases append_eq_append_cons hcs.symm with ⟨more, rfl, hmore⟩ | ⟨more, htaken, hrest⟩
  · left
    cases more with
    | nil =>
      -- the line feed closes no path
      cases hmore
      exact absurd hmark (by decide)
    | cons c more =>
      cases hmore
      exact ⟨more, rfl, directiveAt?_eq_some_iff_lead.2 ⟨hlead, mark, rfl, hpath, hchars, hmark⟩⟩
  · right
    refine ⟨mark, more, htaken, hrest, hmark, ?_⟩
    rw [Option.eq_none_iff_forall_ne_some]
    rintro ⟨lead', path', behind'⟩ hfound
    have hsame := directiveAt?_append hfound ('\n' :: rest)
    rw [h] at hsame
    cases hsame
    -- what is behind the directive would have to begin on the line
    have hlength := congrArg List.length hrest
    simp only [List.length_append, List.length_cons] at hlength
    omega

/-- In front of the `#` of a directive are blanks only. -/
theorem directiveAt?_eq_none {cs rest : List Char} {c : Char} (hnone : '#' ∉ cs)
    (hblank : isBlank c = false) (hc : c ≠ '#') : directiveAt? (cs ++ c :: rest) = none := by
  rw [Option.eq_none_iff_forall_ne_some]
  rintro ⟨lead, path, behind⟩ h
  obtain ⟨indent, gap, mark, more, hcs, -, hindent, -⟩ := directiveAt?_eq_some_iff.1 h
  rcases append_eq_append_cons hcs with ⟨more, rfl, hmore⟩ | ⟨more, rfl, -⟩
  · cases more with
    | nil =>
      cases hmore
      exact hc rfl
    | cons d more =>
      cases hmore
      have := hindent c (by simp)
      exact absurd (this.symm.trans hblank) (by decide)
  · exact hnone (by simp)

theorem directiveAt?_of_not_mem {cs : List Char} (h : '#' ∉ cs) : directiveAt? cs = none := by
  rw [Option.eq_none_iff_forall_ne_some]
  rintro ⟨lead, path, behind⟩ hfound
  obtain ⟨indent, gap, mark, rest, rfl, -⟩ := directiveAt?_eq_some_iff.1 hfound
  exact h (by simp)

/-! ## The search -/

/-- Within a line, a character is passed over. -/
theorem includesFrom_char {lineStart : Bool} {c : Char} {rest : List Char} (hc : c ≠ '\n')
    (hnone : lineStart = true → directiveAt? (c :: rest) = none) (number : Nat) :
    includesFrom number lineStart (c :: rest) = includesFrom number false rest := by
  have hcount : [c].count '\n' = 0 := List.count_eq_zero.2 (by simpa using Ne.symm hc)
  rw [includesFrom_cons hnone, hcount, beq_eq_false_iff_ne.2 hc]
  rfl

theorem includesFrom_within_char {c : Char} {rest : List Char} (hc : c ≠ '\n') (number : Nat) :
    includesFrom number false (c :: rest) = includesFrom number false rest :=
  includesFrom_char hc (fun hstart => absurd hstart Bool.false_ne_true) number

/-- Within a line nothing is found up to its end. -/
theorem includesFrom_within {line : List Char} (h : '\n' ∉ line) (number : Nat)
    (rest : List Char) :
    includesFrom number false (line ++ '\n' :: rest) = includesFrom (number + 1) true rest := by
  induction line with
  | nil => exact includesFrom_cons fun hstart => absurd hstart Bool.false_ne_true
  | cons c line ih =>
    rw [List.mem_cons, not_or] at h
    exact (includesFrom_within_char (Ne.symm h.1) number).trans (ih h.2)

theorem includesFrom_within_last {line : List Char} (h : '\n' ∉ line) (number : Nat) :
    includesFrom number false line = [] := by
  induction line with
  | nil => simp [includesFrom]
  | cons c line ih =>
    rw [List.mem_cons, not_or] at h
    exact (includesFrom_within_char (Ne.symm h.1) number).trans (ih h.2)

/-- Of one line, the directive at its start is found. -/
theorem includesFrom_line {line : List Char} (h : '\n' ∉ line) (number : Nat) :
    includesFrom number true line =
      (directiveAt? line).toList.map fun found => (found.2.1, number) := by
  cases hdirective : directiveAt? line with
  | none =>
    cases line with
    | nil => simp [includesFrom]
    | cons c line =>
      rw [List.mem_cons, not_or] at h
      rw [includesFrom_char (Ne.symm h.1) fun _ => hdirective, includesFrom_within_last h.2]
      rfl
  | some found =>
    obtain ⟨lead, path, behind⟩ := found
    obtain ⟨-, mark, rfl, -⟩ := directiveAt?_eq_some_iff_lead.1 hdirective
    simp only [List.mem_append, List.mem_cons, not_or] at h
    rw [includesFrom_of_directive hdirective, includesFrom_within_last h.2.2,
      List.count_eq_zero.2 h.1.1]
    rfl

/-- Where the first line has no directive, or all of it, what is found there comes in front of what
    is found on the others. -/
theorem includesFrom_lines {line rest : List Char} (h : '\n' ∉ line)
    (hdirective : directiveAt? (line ++ '\n' :: rest) =
      (directiveAt? line).map fun found => (found.1, found.2.1, found.2.2 ++ '\n' :: rest))
    (number : Nat) :
    includesFrom number true (line ++ '\n' :: rest) =
      includesFrom number true line ++ includesFrom (number + 1) true rest := by
  rw [includesFrom_line h]
  cases hline : directiveAt? line with
  | none =>
    -- an empty line ends at once, and on any other one its end is searched for
    rw [hline] at hdirective
    cases line with
    | nil => exact includesFrom_cons fun _ => hdirective
    | cons c line =>
      rw [List.mem_cons, not_or] at h
      exact (includesFrom_char (Ne.symm h.1) (fun _ => hdirective) number).trans
        (includesFrom_within h.2 number rest)
  | some found =>
    obtain ⟨lead, path, behind⟩ := found
    rw [hline] at hdirective
    obtain ⟨-, mark, rfl, -⟩ := directiveAt?_eq_some_iff_lead.1 hline
    simp only [List.mem_append, List.mem_cons, not_or] at h
    rw [includesFrom_of_directive hdirective, includesFrom_within h.2.2,
      List.count_eq_zero.2 h.1.1, List.count_eq_zero.2 h.1.2]
    rfl

/-- A directive that goes on behind the line, but takes in no `#` there, is passed over as if the
    search began behind the line. -/
theorem includesFrom_over {line more lead path behind : List Char} {mark : Char} (h : '\n' ∉ line)
    (hdirective : directiveAt? (line ++ '\n' :: (more ++ mark :: behind)) =
      some (lead, path, behind))
    (htaken : lead ++ path = line ++ '\n' :: more) (hmark : isPathChar mark = false)
    (hmore : '#' ∉ more) (number : Nat) :
    includesFrom number true (line ++ '\n' :: (more ++ mark :: behind)) =
      (path, number + lead.count '\n') ::
        includesFrom (number + 1) true (more ++ mark :: behind) := by
  have hlines : lead.count '\n' + path.count '\n' = 1 + (more ++ [mark]).count '\n' := by
    have hcount := congrArg (List.count '\n') htaken
    rw [List.count_append, List.count_append, List.count_eq_zero.2 h, List.count_cons_self]
      at hcount
    rcases eq_of_isPathChar_eq_false hmark with rfl | rfl <;> simp <;> omega
  -- both searches come to the closing mark on the same line and within it
  have hpass : includesFrom (number + 1) true (more ++ mark :: behind) =
      includesFrom (number + 1 + (more ++ [mark]).count '\n') false behind := by
    rcases eq_of_isPathChar_eq_false hmark with rfl | rfl <;>
      exact includesFrom_passed (by simp [hmore]) (by decide)
  rw [includesFrom_of_directive hdirective, Nat.add_assoc number, hlines, ← Nat.add_assoc, hpass]

end MakeAtlas.Source
