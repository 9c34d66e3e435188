import MakeAtlas.Proofs.Source.Lexemes
import MakeAtlas.Source.Include
import MakeAtlas.Text.Lines

/-!
# What is reported

Every include that is reported is named by a directive of the scrubbed text, and the number that is
reported with it counts the line feeds in front of its path. The `#` of the directive and the mark
that opens the path are characters of the source itself, outside of comments and literals.

## Key results

- `directiveAt?_eq_some_iff`: what a directive in the scrubbed text looks like
- `includesFrom_passed`: text without a `#` is passed over
- `exists_directive_of_mem_includesFrom`: the directive in the scrubbed text
- `exists_reports_of_mem_includes`: where it stands in the source
-/

namespace MakeAtlas.Source

open MakeAtlas.Text

/-- Whether a line starts behind a text. -/
def StartsLine (front : List Char) : Prop :=
  ∀ c ∈ front.getLast?, c = '\n'

/-- A text ends with blanks that a line starts with. -/
def EndsIndented (front : List Char) : Prop :=
  ∃ above indent, front = above ++ indent ∧ StartsLine above ∧ ∀ c ∈ indent, isBlank c = true

/-- What stands between the `#` of a directive and its path. -/
def IsInclude (gap : List Char) : Prop :=
  ∃ first second, gap = first ++ "include".toList ++ second ∧ (∀ c ∈ first, isBlank c = true) ∧
    ∀ c ∈ second, isBlank c = true

/-- A path that is closed, with what follows its closing mark. -/
def IsClosedPath (cs path : List Char) : Prop :=
  path ≠ [] ∧ ∃ mark behind, cs = path ++ mark :: behind ∧ (∀ c ∈ path, isPathChar c = true) ∧
    isPathChar mark = false

theorem startsLine_nil : StartsLine [] :=
  nofun

/-- A path that is closed does not start with a quote. -/
theorem IsClosedPath.not_head? {cs path : List Char} (h : IsClosedPath cs path) :
    '"' ∉ cs.head? := by
  obtain ⟨hne, mark, behind, rfl, hchars, -⟩ := h
  obtain ⟨c, path, rfl⟩ := List.exists_cons_of_ne_nil hne
  rw [List.cons_append, List.head?_cons, Option.mem_some_iff]
  rintro rfl
  exact absurd (hchars '"' List.mem_cons_self) (by decide)

/-- No quote stands between the `#` of a directive and the mark that opens its path. -/
theorem IsInclude.not_mem {gap : List Char} (h : IsInclude gap) : '"' ∉ gap := by
  obtain ⟨first, second, rfl, hfirst, hsecond⟩ := h
  simp only [List.mem_append, not_or]
  refine ⟨⟨fun hmem => ?_, by decide⟩, fun hmem => ?_⟩
  · exact absurd (hfirst _ hmem) (by decide)
  · exact absurd (hsecond _ hmem) (by decide)

/-! ## In the scrubbed text -/

theorem exists_of_trimLeft (cs : List Char) :
    ∃ blanks, cs = blanks ++ trimLeft cs ∧ ∀ c ∈ blanks, isBlank c = true :=
  ⟨cs.takeWhile isBlank, List.takeWhile_append_dropWhile.symm, fun _ => List.mem_takeWhile_imp⟩

theorem afterOpening?_eq_some {cs rest : List Char} (h : afterOpening? cs = some rest) :
    ∃ mark, cs = mark :: rest ∧ (mark = '<' ∨ mark = '"') := by
  unfold afterOpening? at h
  split at h
  · cases h
    exact ⟨_, rfl, Or.inl rfl⟩
  · cases h
    exact ⟨_, rfl, Or.inr rfl⟩
  · cases h

/-- A path reaches to the first mark that closes one. -/
theorem closedPath?_eq_some_iff {cs path behind : List Char} :
    closedPath? cs = some (path, behind) ↔
      ∃ mark, cs = path ++ mark :: behind ∧ path ≠ [] ∧ (∀ c ∈ path, isPathChar c = true) ∧
        isPathChar mark = false := by
  constructor
  · intro h
    have hsplit : cs.takeWhile isPathChar ++ cs.dropWhile isPathChar = cs :=
      List.takeWhile_append_dropWhile
    unfold closedPath? at h
    split at h
    · cases h
    · next mark rest hdrop =>
      dsimp only at h
      split at h
      · cases h
      · next hne =>
        cases h
        have hmark := List.head?_dropWhile_not isPathChar cs
        rw [hdrop] at hsplit hmark
        refine ⟨mark, hsplit.symm, by simpa using hne, fun _ => List.mem_takeWhile_imp, ?_⟩
        simpa using hmark
  · rintro ⟨mark, rfl, hne, hchars, hmark⟩
    have hend : ∀ c ∈ (mark :: behind).head?, isPathChar c = false := by
      rintro _ ⟨⟩
      exact hmark
    simp [closedPath?, takeWhile_append_of_head? hchars hend,
      dropWhile_append_of_head? hchars hend, hne]

/-- Blanks are trimmed up to the first character that is none. -/
theorem trimLeft_append {blanks cs : List Char} {c : Char} (h : ∀ d ∈ blanks, isBlank d = true)
    (hc : isBlank c = false) : trimLeft (blanks ++ c :: cs) = c :: cs := by
  rw [trimLeft, List.dropWhile_append_of_pos h, List.dropWhile_cons_of_neg (by simp [hc])]

/-- The parts of a directive at the front of a text. -/
theorem directiveAt?_eq_some_iff {cs lead path behind : List Char} :
    directiveAt? cs = some (lead, path, behind) ↔
      ∃ indent gap mark rest, cs = indent ++ '#' :: (gap ++ mark :: rest) ∧
        lead = indent ++ '#' :: (gap ++ [mark]) ∧ (∀ c ∈ indent, isBlank c = true) ∧
        IsInclude gap ∧ (mark = '<' ∨ mark = '"') ∧ closedPath? rest = some (path, behind) := by
  have htake : ∀ indent gap mark rest,
      (indent ++ '#' :: (gap ++ mark :: rest)).take
        ((indent ++ '#' :: (gap ++ mark :: rest)).length - rest.length) =
          indent ++ '#' :: (gap ++ [mark]) := by
    intro indent gap mark rest
    have hwhole : indent ++ '#' :: (gap ++ mark :: rest) =
        (indent ++ '#' :: (gap ++ [mark])) ++ rest := by simp
    rw [hwhole, take_length_sub]
  simp only [directiveAt?, Option.bind_eq_bind]
  constructor
  · intro h
    -- each part is what was trimmed or matched in its turn
    obtain ⟨first, hfirst, h⟩ := Option.bind_eq_some_iff.1 h
    obtain ⟨second, hsecond, h⟩ := Option.bind_eq_some_iff.1 h
    obtain ⟨rest, hrest, h⟩ := Option.bind_eq_some_iff.1 h
    obtain ⟨⟨p, b⟩, hpath, h⟩ := Option.bind_eq_some_iff.1 h
    cases h
    obtain ⟨indent, hindent, hblank⟩ := exists_of_trimLeft cs
    obtain ⟨gap, hgap, hgapblank⟩ := exists_of_trimLeft first
    obtain ⟨gap', hgap', hgapblank'⟩ := exists_of_trimLeft second
    obtain ⟨mark, hmark, hopening⟩ := afterOpening?_eq_some hrest
    rw [after?_eq_some_iff.1 hfirst] at hindent
    rw [after?_eq_some_iff.1 hsecond] at hgap
    rw [hmark] at hgap'
    have hcs : cs = indent ++ '#' :: ((gap ++ "include".toList ++ gap') ++ mark :: rest) := by
      rw [hindent, hgap, hgap']
      simp
    exact ⟨indent, _, mark, rest, hcs, by rw [hcs]; exact htake _ _ _ _, hblank,
      ⟨gap, gap', rfl, hgapblank, hgapblank'⟩, hopening, hpath⟩
  · rintro ⟨indent, gap, mark, rest, rfl, rfl, hindent, hgap, hmark, hpath⟩
    obtain ⟨first, second, hgap', hfirst, hsecond⟩ := hgap
    have hmarkBlank : isBlank mark = false := by
      rcases hmark with rfl | rfl <;> decide
    have hopening : afterOpening? (mark :: rest) = some rest := by
      rcases hmark with rfl | rfl <;> rfl
    have hfirst' : trimLeft (gap ++ mark :: rest) =
        "include".toList ++ (second ++ mark :: rest) := by
      rw [hgap', List.append_assoc, List.append_assoc]
      exact trimLeft_append hfirst (by decide)
    have hhash : after? ['#'] ('#' :: (gap ++ mark :: rest)) = some (gap ++ mark :: rest) :=
      after?_eq_some_iff.2 rfl
    have hword : after? "include".toList ("include".toList ++ (second ++ mark :: rest)) =
        some (second ++ mark :: rest) := after?_eq_some_iff.2 rfl
    simp only [trimLeft_append hindent (by decide : isBlank '#' = false), hhash, Option.bind_some,
      hfirst', hword, trimLeft_append hsecond hmarkBlank, hopening, hpath, htake]

/-- A directive at the start of a line is found, and the search goes on behind it. -/
theorem includesFrom_of_directive {line : Nat} {cs lead path behind : List Char}
    (h : directiveAt? cs = some (lead, path, behind)) :
    includesFrom line true cs = (path, line + lead.count '\n') ::
      includesFrom (line + lead.count '\n' + path.count '\n') false behind := by
  cases cs with
  | nil => cases h
  | cons c rest =>
    rw [includesFrom]
    split
    · next lead' path' behind' h' =>
      rw [if_pos rfl, h] at h'
      cases h'
      rfl
    · next h' =>
      rw [if_pos rfl, h] at h'
      cases h'

/-- Where no directive is, the search goes on with the next character. -/
theorem includesFrom_cons {line : Nat} {lineStart : Bool} {c : Char} {rest : List Char}
    (h : lineStart = true → directiveAt? (c :: rest) = none) :
    includesFrom line lineStart (c :: rest) =
      includesFrom (line + [c].count '\n') (c == '\n') rest := by
  have hcount : line + [c].count '\n' = if c = '\n' then line + 1 else line := by
    rw [List.count_singleton]
    simp only [beq_iff_eq]
    split <;> rfl
  rw [includesFrom, hcount]
  split
  · next h' =>
    split at h'
    · next hstart =>
      rw [h hstart] at h'
      cases h'
    · cases h'
  · rfl

/-- The search for a directive at the start of a line goes on behind a blank. -/
theorem directiveAt?_blank {c : Char} {cs : List Char} (hc : isBlank c = true) :
    directiveAt? (c :: cs) =
      (directiveAt? cs).map fun (lead, path, behind) => (c :: lead, path, behind) := by
  rw [Option.ext_iff]
  rintro ⟨lead, path, behind⟩
  simp only [Option.map_eq_some_iff, Prod.exists, Prod.mk.injEq, directiveAt?_eq_some_iff]
  constructor
  · rintro ⟨indent, gap, mark, rest, hcs, rfl, hindent, h⟩
    cases indent with
    | nil =>
      cases hcs
      exact absurd hc (by decide)
    | cons d indent =>
      cases hcs
      exact ⟨_, path, behind, ⟨indent, gap, mark, rest, rfl, rfl,
        fun e he => hindent e (List.mem_cons_of_mem _ he), h⟩, rfl, rfl, rfl⟩
  · rintro ⟨lead, path, behind, ⟨indent, gap, mark, rest, rfl, rfl, hindent, h⟩, rfl, rfl, rfl⟩
    exact ⟨c :: indent, gap, mark, rest, rfl, rfl, List.forall_mem_cons.2 ⟨hc, hindent⟩, h⟩

/-- A blank at the start of a line is passed over. -/
theorem includesFrom_blank {line : Nat} {c : Char} {cs : List Char} (hc : isBlank c = true) :
    includesFrom line true (c :: cs) = includesFrom (line + [c].count '\n') true cs := by
  cases hcs : directiveAt? cs with
  | some found =>
    obtain ⟨lead, path, behind⟩ := found
    have hwhole : directiveAt? (c :: cs) = some (c :: lead, path, behind) := by
      rw [directiveAt?_blank hc, hcs]
      rfl
    rw [includesFrom_of_directive hwhole, includesFrom_of_directive hcs, count_lineFeed_cons]
    simp only [Nat.add_assoc]
  | none =>
    have hnone : directiveAt? (c :: cs) = none := by
      rw [directiveAt?_blank hc, hcs]
      rfl
    rw [includesFrom_cons fun _ => hnone]
    -- no directive is at the next place, whether a line starts there or not
    cases cs with
    | nil => simp [includesFrom]
    | cons d cs => rw [includesFrom_cons fun _ => hcs, includesFrom_cons fun _ => hcs]

/-- A character that is no `#` is passed over. A line that starts with a blank still starts behind
    it. -/
theorem includesFrom_pass {line : Nat} {lineStart : Bool} {c : Char} {rest : List Char}
    (h : c ≠ '#') :
    includesFrom line lineStart (c :: rest) =
      includesFrom (line + [c].count '\n') (lineStart && isBlank c || c == '\n') rest := by
  by_cases hstart : lineStart = true ∧ isBlank c = true
  · rw [hstart.1, hstart.2, includesFrom_blank hstart.2]
    rfl
  · have hflag : (lineStart && isBlank c) = false := by
      rw [Bool.and_eq_false_iff]
      rwa [not_and_or, Bool.not_eq_true, Bool.not_eq_true] at hstart
    rw [hflag, Bool.false_or]
    refine includesFrom_cons fun hline => ?_
    have hc : isBlank c = false := by simpa [hline] using hstart
    have htrim : trimLeft (c :: rest) = c :: rest := List.dropWhile_cons_of_neg (by simp [hc])
    have hhash : after? ['#'] (c :: rest) = none := if_neg (Ne.symm h)
    simp only [directiveAt?, htrim, hhash]
    rfl

/-- Nothing is found where no `#` is, up to the end of a line or to a character on it that is no
    blank. -/
theorem includesFrom_passed {line : Nat} {lineStart : Bool} {cs rest : List Char} {last : Char}
    (h : '#' ∉ cs ++ [last]) (hlast : isBlank last = true → last = '\n') :
    includesFrom line lineStart (cs ++ last :: rest) =
      includesFrom (line + (cs ++ [last]).count '\n') (last == '\n') rest := by
  induction cs generalizing line lineStart with
  | nil =>
    have hflag : (lineStart && isBlank last || last == '\n') = (last == '\n') := by
      cases hblank : isBlank last with
      | true => simp [hlast hblank]
      | false => simp
    rw [List.nil_append, includesFrom_pass (by simpa [eq_comm] using h), hflag]
    rfl
  | cons c cs ih =>
    rw [List.cons_append, List.mem_cons, not_or] at h
    rw [List.cons_append, includesFrom_pass (Ne.symm h.1), ih h.2, List.cons_append,
      count_lineFeed_cons c (cs ++ _), Nat.add_assoc]

/-- Nothing is found up to the end of a line where no `#` is. -/
theorem includesFrom_of_not_mem {line : Nat} {lineStart : Bool} {cs rest : List Char}
    (h : '#' ∉ cs) :
    includesFrom line lineStart (cs ++ '\n' :: rest) =
      includesFrom (line + (cs ++ ['\n']).count '\n') true rest :=
  includesFrom_passed (by simp [h]) fun _ => rfl

/-- The directive that names an include which is found, and the line feeds that are counted. -/
theorem exists_directive_of_mem_includesFrom {before cs path : List Char} {line number : Nat}
    {lineStart : Bool} (hstart : lineStart = true → StartsLine before)
    (hline : line = 1 + before.count '\n')
    (h : (path, number) ∈ includesFrom line lineStart cs) :
    ∃ front gap mark rest, before ++ cs = front ++ '#' :: (gap ++ mark :: rest) ∧
      EndsIndented front ∧ IsInclude gap ∧ (mark = '<' ∨ mark = '"') ∧ IsClosedPath rest path ∧
      number = 1 + (front ++ '#' :: gap).count '\n' := by
  -- Strong induction on the length: a directive is passed over as a whole
  induction hn : cs.length using Nat.strongRecOn generalizing cs line lineStart before with
  | ind n ih =>
    cases cs with
    | nil => simp [includesFrom] at h
    | cons c rest =>
      by_cases hnone : lineStart = true → directiveAt? (c :: rest) = none
      · -- the character goes to what is in front
        rw [includesFrom_cons hnone] at h
        have hnumber : line + [c].count '\n' = 1 + (before ++ [c]).count '\n' := by
          rw [hline, List.count_append, Nat.add_assoc]
        have hnext : (c == '\n') = true → StartsLine (before ++ [c]) := by
          intro hc d hd
          rw [List.getLast?_concat, Option.mem_some_iff] at hd
          rw [← hd]
          exact beq_iff_eq.1 hc
        have hfound := ih rest.length (by rw [← hn]; exact Nat.lt_succ_self _) hnext hnumber h rfl
        rwa [List.append_assoc] at hfound
      · rw [Classical.not_imp] at hnone
        obtain ⟨rfl, hsome⟩ := hnone
        obtain ⟨⟨lead, path', behind⟩, hdirective⟩ := Option.ne_none_iff_exists'.1 hsome
        rw [includesFrom_of_directive hdirective] at h
        obtain ⟨indent, gap, mark, cs, hcs, rfl, hindent, hgap, hmark, hpath⟩ :=
          directiveAt?_eq_some_iff.1 hdirective
        obtain ⟨mark', rfl, hne, hchars, hmark'⟩ := closedPath?_eq_some_iff.1 hpath
        have hlead : (indent ++ '#' :: (gap ++ [mark])).count '\n' =
            (indent ++ '#' :: gap).count '\n' := by
          rcases hmark with rfl | rfl <;> simp
        rcases List.mem_cons.1 h with hfirst | h
        · -- this directive names the include
          cases hfirst
          refine ⟨before ++ indent, gap, mark, _, by rw [hcs, List.append_assoc],
            ⟨before, indent, rfl, hstart rfl, hindent⟩, hgap, hmark,
            ⟨hne, mark', behind, rfl, hchars, hmark'⟩, ?_⟩
          have hcount : (before ++ (indent ++ '#' :: gap)).count '\n' =
              before.count '\n' + (indent ++ '#' :: gap).count '\n' := List.count_append
          rw [hline, hlead, List.append_assoc, hcount, Nat.add_assoc]
        · -- a later one does: all of this one goes to what is in front
          have hwhole : before ++ c :: rest =
              (before ++ indent ++ '#' :: (gap ++ mark :: (path' ++ [mark']))) ++ behind := by
            rw [hcs]
            simp
          have hshorter : behind.length < n := by
            have hlength := congrArg List.length hcs
            simp only [List.length_append, List.length_cons] at hlength hn
            omega
          have hnumber : line + (indent ++ '#' :: (gap ++ [mark])).count '\n' + path'.count '\n' =
              1 + (before ++ indent ++ '#' :: (gap ++ mark :: (path' ++ [mark']))).count '\n' := by
            have hend : mark' ≠ '\n' := by
              rintro rfl
              exact absurd hmark' (by decide)
            rcases hmark with rfl | rfl <;> simp [hline, hend] <;> omega
          rw [hwhole]
          exact ih behind.length hshorter (fun hfalse : false = true => Bool.noConfusion hfalse)
            hnumber h rfl

/-! ## In the source -/

/-- An include is reported for a directive of a source: these pieces stand in front of its `#`,
these between the `#` and the mark that opens its path, and these behind the mark. -/
structure Reports (text : String) (i : Include) (before between : List Lexeme) (mark : Char)
    (behind : List Lexeme) : Prop where
  pieces : Rules.ofScrubbing.lexemes true text.toList =
    before ++ .plain '#' :: (between ++ .plain mark :: behind)
  indented : EndsIndented (scrubbed before)
  isInclude : IsInclude (scrubbed between)
  opens : mark = '<' ∨ mark = '"'
  path : ∃ path, IsClosedPath (scrubbed behind) path ∧ i.path = String.ofList (trim path)

/-- Every include that is reported is reported for a directive, with the number of the line on which
    the path of the directive is opened in the scrubbed text. -/
theorem exists_reports_of_mem_includes {text : String} {i : Include} (h : i ∈ includes text) :
    ∃ before between mark behind, Reports text i before between mark behind ∧
      i.line = 1 + (scrubbed (before ++ .plain '#' :: between)).count '\n' := by
  obtain ⟨⟨path, number⟩, hfound, hi⟩ := List.mem_filterMap.1 h
  have hinclude : i.path = String.ofList (trim path) ∧ i.line = number := by
    dsimp only at hi
    split at hi
    · cases hi
    · cases hi
      exact ⟨rfl, rfl⟩
  obtain ⟨front, gap, mark, rest, hscrubbed, hindented, hgap, hmark, hpath, hnumber⟩ :=
    exists_directive_of_mem_includesFrom (fun _ => startsLine_nil) rfl hfound
  rw [List.nil_append, ← Rules.scrubbed_lexemes] at hscrubbed
  have hsound : ∀ l ∈ Rules.ofScrubbing.lexemes true text.toList, l.IsSound :=
    fun _ => Rules.isSound_of_mem_lexemes
  -- no comment and no literal leaves a `#`, and none leaves a quote alone
  obtain ⟨before, more, hbefore, rfl, hmore⟩ :=
    exists_plain_of_scrubbed_eq hsound (by decide) (fun hquote => absurd hquote (by decide))
      hscrubbed
  rw [hbefore] at hsound
  have hopening : isBlank mark = false := by
    rcases hmark with rfl | rfl <;> decide
  have halone : mark = '"' ∨ mark = '\'' → mark ∉ gap.getLast? ∧ mark ∉ rest.head? := by
    intro hquote
    have hmark : mark = '"' := by
      rcases hmark with rfl | rfl
      · exact absurd hquote (by decide)
      · rfl
    rw [hmark]
    exact ⟨fun hlast => hgap.not_mem (List.mem_of_getLast? hlast), hpath.not_head?⟩
  obtain ⟨between, behind, rfl, rfl, rfl⟩ := exists_plain_of_scrubbed_eq
    (fun l hl => hsound l (List.mem_append_right _ (List.mem_cons_of_mem _ hl))) hopening halone
    hmore
  refine ⟨before, between, mark, behind, ⟨hbefore, hindented, hgap, hmark, path, hpath,
    hinclude.1⟩, ?_⟩
  rw [hinclude.2, hnumber, scrubbed_append]
  rfl

end MakeAtlas.Source
