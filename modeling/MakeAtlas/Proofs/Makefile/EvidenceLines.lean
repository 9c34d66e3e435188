import MakeAtlas.Proofs.Evidence.References
import MakeAtlas.Proofs.Makefile.Flags
import MakeAtlas.Proofs.Makefile.Rules

/-!
# Line numbers of evidence

The numbers of include flags and of rules are to lead back to the lines of a Makefile. Flags count
line feeds, rules every line end: where the text in front of a rule holds a form feed, or another
character that ends lines and is no line feed, the rule is numbered behind its line.

## Key results

- `Disk.not_mem_of_readMakefile`: what is read of a Makefile has no carriage returns
- `exists_place_of_mem_rules`: where a rule stands
- `numbersLines_of_no_return`: where the numbers of flags, rules and references lead
- `rule_numbered_behind_its_line`: a form feed in front of a rule
-/

namespace MakeAtlas

open MakeAtlas.Text

/-- A Makefile that is read holds no carriage return: they have become line feeds. -/
theorem Disk.not_mem_of_readMakefile {disk : Disk} {folder : String} {cs : List Char}
    (h : disk.readMakefile folder = .ok (some cs)) : '\r' ∉ cs := by
  rw [readMakefile, readText] at h
  cases hread : unlessImpossible (disk.contentsOf "/" (pathIn folder Workspace.makefileName)) with
  | error e =>
    rw [hread] at h
    cases h
  | ok content =>
    rw [hread] at h
    cases content with
    | none => cases h
    | some bytes =>
      cases h
      exact not_mem_unifyNewlines _

namespace Makefile

/-! ## Rules and their lines -/

theorem dropSecondColon_suffix (rest : List Char) : dropSecondColon rest <:+ rest := by
  unfold dropSecondColon
  split
  · exact List.suffix_cons _ _
  · exact List.suffix_rfl

/-- Prerequisites are parts of what they are read from. -/
theorem infix_of_mem_prerequisites {rest : List Char} {name : String}
    (h : name ∈ prerequisites rest) : name.toList <:+: rest := by
  obtain ⟨word, hword, rfl⟩ := List.mem_map.1 h
  have hlisted : listing rest <+: rest := (before_isPrefix _ _).trans (before_isPrefix _ _)
  rw [String.toList_ofList]
  exact (infix_of_mem_words (List.mem_filter.1 hword).1).trans hlisted.isInfix

/-- What a rule names stands on the line that holds it. -/
theorem Holds.isInfix {line : List Char} {rule : Rule} (h : Holds line rule) :
    ∀ name ∈ rule.targets :: rule.prerequisites, name.toList <:+: line := by
  obtain ⟨rest, hstates, hfound, -⟩ := h
  obtain ⟨front, rfl, -, htrim⟩ := hstates.split
  rw [List.forall_mem_cons, hfound, ← htrim]
  refine ⟨(trim_isInfix front).trans (List.prefix_append _ _).isInfix, fun name hname => ?_⟩
  have hrest : rest <:+ front ++ ':' :: rest :=
    (List.suffix_cons _ _).trans (List.suffix_append _ _)
  exact (infix_of_mem_prerequisites hname).trans ((dropSecondColon_suffix rest).trans hrest).isInfix

/-- A rule stands on a line, and its number counts the line ends in front of the line. -/
theorem exists_place_of_mem_rules {text : String} (hreturn : '\r' ∉ text.toList) {rule : Rule}
    (h : rule ∈ rules text) :
    ∃ front line behind, text.toList = front ++ line ++ behind ∧ IsLine front line behind ∧
      Holds line rule ∧ rule.line = 1 + front.count '\n' + otherEnds front := by
  obtain ⟨before, line, after, hlines, hholds, hnumber⟩ := mem_rules_iff.1 h
  obtain ⟨front, behind, htext, hline, hcount⟩ := exists_place_of_lines_eq hreturn hlines
  refine ⟨front, line, behind, htext, hline, hholds, ?_⟩
  rw [hnumber, ← hcount, countP_isTerminator]
  omega

/-! ## Where numbers lead -/

/-- A number, from one, leads to the line between line feeds that has each of some texts in it. -/
def LeadsTo (text : String) (number : Nat) (found : List String) : Prop :=
  0 < number ∧ ∃ part, (newlineParts text.toList)[number - 1]? = some part ∧
    ∀ name ∈ found, name.toList <:+: part

/-- What stands on one line is led to by the number of line feeds in front, counted from one. -/
theorem leadsTo_of_place {text : String} {front taken behind : List Char}
    (htext : text.toList = front ++ taken ++ behind) (hline : '\n' ∉ taken) {found : List String}
    (h : ∀ name ∈ found, name.toList <:+: taken) : LeadsTo text (1 + front.count '\n') found := by
  obtain ⟨part, hpart, htaken⟩ := exists_part hline front behind
  refine ⟨by omega, part, ?_, fun name hname => (h name hname).trans htaken⟩
  rw [htext, Nat.add_sub_cancel_left, hpart]

/-- How the numbers of evidence lead back into a Makefile. -/
structure NumbersLines (text : String) : Prop where
  /-- The number of a flag is that of the line feeds in front, and leads to its path. -/
  flags : ∀ flag ∈ flags text, LeadsTo text flag.line [flag.path] ∧
    ∃ front taken behind, text.toList = front ++ taken ++ behind ∧ ['-', 'I'] <+: taken ∧
      flag.path.toList <:+: taken ∧ '\n' ∉ taken ∧ flag.line = 1 + front.count '\n'
  /-- The number of line feeds in front of a rule leads to the rule. The rule's own number is as
  much higher as there are other line ends in front. -/
  rules : ∀ rule ∈ rules text, ∃ front line behind, text.toList = front ++ line ++ behind ∧
    IsLine front line behind ∧ Holds line rule ∧
    LeadsTo text (1 + front.count '\n') (rule.targets :: rule.prerequisites) ∧
    rule.line = 1 + front.count '\n' + otherEnds front
  /-- Where only line feeds end lines, the number of a rule leads to the rule, -/
  rules_of_lineFeeds : (∀ c ∈ text.toList, isTerminator c = true → c = '\n') →
    ∀ rule ∈ Makefile.rules text, LeadsTo text rule.line (rule.targets :: rule.prerequisites)
  /-- and that of a reference to its path. -/
  references_of_lineFeeds : (∀ c ∈ text.toList, isTerminator c = true → c = '\n') →
    ∀ file, ∀ r ∈ Evidence.makefileReferences file text,
      ∃ number, r.line = some number ∧ LeadsTo text number [r.path]

private theorem leadsTo_flag {text : String} {flag : Flag} (h : flag ∈ flags text) :
    LeadsTo text flag.line [flag.path] := by
  obtain ⟨front, taken, behind, htext, -, hpath, hline, hnumber⟩ :=
    exists_place_of_mem_allFlags (mem_of_mem_distinctBy h)
  rw [hnumber]
  exact leadsTo_of_place htext hline (List.forall_mem_singleton.2 hpath)

private theorem leadsTo_rule {text : String} {front line behind : List Char} {rule : Rule}
    (htext : text.toList = front ++ line ++ behind) (hline : IsLine front line behind)
    (hholds : Holds line rule) :
    LeadsTo text (1 + front.count '\n') (rule.targets :: rule.prerequisites) :=
  leadsTo_of_place htext (fun hmem => absurd (hline.within _ hmem) (by decide)) hholds.isInfix

/-- Where only line feeds end lines, the number of a rule leads to it. -/
private theorem leadsTo_rule_of_lineFeeds {text : String} (hreturn : '\r' ∉ text.toList)
    (h : ∀ c ∈ text.toList, isTerminator c = true → c = '\n') {rule : Rule}
    (hrule : rule ∈ rules text) :
    LeadsTo text rule.line (rule.targets :: rule.prerequisites) := by
  obtain ⟨front, line, behind, htext, hline, hholds, hnumber⟩ :=
    exists_place_of_mem_rules hreturn hrule
  have hnone : otherEnds front = 0 := otherEnds_eq_zero_iff.2 fun c hc =>
    h c (by rw [htext]; exact List.mem_append_left _ (List.mem_append_left _ hc))
  rw [hnumber, hnone, Nat.add_zero]
  exact leadsTo_rule htext hline hholds

/-- In a Makefile whose carriage returns have become line feeds, as they are when it is read, the
    numbers of flags lead to their paths, and those of rules to the rules, once the line ends in
    front of them that are no line feeds are taken off. -/
theorem numbersLines_of_no_return (text : String) (hreturn : '\r' ∉ text.toList) :
    NumbersLines text where
  flags _ hflag :=
    ⟨leadsTo_flag hflag, exists_place_of_mem_allFlags (mem_of_mem_distinctBy hflag)⟩
  rules _ hrule := by
    obtain ⟨front, line, behind, htext, hline, hholds, hnumber⟩ :=
      exists_place_of_mem_rules hreturn hrule
    exact ⟨front, line, behind, htext, hline, hholds, leadsTo_rule htext hline hholds, hnumber⟩
  rules_of_lineFeeds h _ hrule := leadsTo_rule_of_lineFeeds hreturn h hrule
  references_of_lineFeeds := by
    intro h file r hr
    obtain ⟨-, -, number, hline, hmentions⟩ := Evidence.mem_makefileReferences_iff.1 hr
    refine ⟨number, hline, ?_⟩
    -- a reference has the number of its flag or of its rule
    rcases hmentions with hflag | ⟨rule, hrule, rfl, hpath⟩
    · exact leadsTo_flag hflag
    · obtain ⟨hpos, part, hpart, hall⟩ := leadsTo_rule_of_lineFeeds hreturn h hrule
      exact ⟨hpos, part, hpart,
        List.forall_mem_singleton.2 (hall _ (List.mem_cons_of_mem _ hpath))⟩

/-- A Makefile with a form feed at the end of its first line, and a rule and a flag on its second
    one. -/
def fed : String := "# one\x0c\nlib.o: ../lib/x.h # -I../inc\n"

/-- The flag is numbered by its line, the rule by the line behind it. -/
theorem numbersLines_of_no_return_fed :
    '\r' ∉ fed.toList ∧ LeadsTo fed 2 ["../inc"] ∧
      ∃ front line behind, fed.toList = front ++ line ++ behind ∧
        LeadsTo fed (1 + front.count '\n') ["lib.o", "../lib/x.h"] ∧
        3 = 1 + front.count '\n' + otherEnds front := by
  have hflag : (⟨"../inc", 2⟩ : Flag) ∈ flags fed := by decide +kernel
  have hrule : (⟨"lib.o", ["../lib/x.h"], 3⟩ : Rule) ∈ rules fed := by decide +kernel
  have hreturn : '\r' ∉ fed.toList := by decide
  have hnumbers := numbersLines_of_no_return fed hreturn
  obtain ⟨front, line, behind, htext, -, -, hleads, hnumber⟩ := hnumbers.rules _ hrule
  exact ⟨hreturn, (hnumbers.flags _ hflag).1, front, line, behind, htext, hleads, hnumber⟩

/-- The rule's number leads to an empty line, where the rule is not. -/
theorem rule_numbered_behind_its_line :
    '\r' ∉ fed.toList ∧ rules fed = [⟨"lib.o", ["../lib/x.h"], 3⟩] ∧ flags fed = [⟨"../inc", 2⟩] ∧
      newlineParts fed.toList = ["# one\x0c".toList, "lib.o: ../lib/x.h # -I../inc".toList, []] ∧
      ¬ LeadsTo fed 3 ["lib.o", "../lib/x.h"] := by
  have hparts : newlineParts fed.toList =
      ["# one\x0c".toList, "lib.o: ../lib/x.h # -I../inc".toList, []] := by decide
  refine ⟨by decide, by decide +kernel, by decide +kernel, hparts, ?_⟩
  rintro ⟨-, part, hpart, hall⟩
  rw [hparts] at hpart
  cases hpart
  exact absurd (List.infix_nil.1 (hall "lib.o" List.mem_cons_self)) (by decide)

end Makefile

end MakeAtlas
