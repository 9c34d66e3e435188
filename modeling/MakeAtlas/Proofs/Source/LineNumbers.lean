import MakeAtlas.Proofs.Source.Reported

/-!
# Line numbers of includes

Scrubbing keeps the line feeds in front of every piece of a source, except those in literals: one
that a backslash takes with it goes away with the text of its literal. The number that is reported
with an include is that of the line of its directive, less the line feeds in literals in front.

## Key results

- `line_add_joinedLines`: line feeds, and lines of includes, in the scrubbed text and in the source
- `line_of_directive_lost`: a literal that goes on over a line feed moves what follows up
-/

namespace MakeAtlas.Source

/-- The number, from one, of the line that pieces in front end on. -/
def lineBehind (front : List Lexeme) : Nat :=
  1 + (written front).count '\n'

/-- Scrubbing leaves the line feeds of a source, in front of each of its pieces and altogether,
    except those in literals. An include is reported with the number of the line on which its
    directive opens the path, less the line feeds in literals in front. -/
theorem line_add_joinedLines (text : String) :
    ((scrub text).toList.count '\n' + joinedLines (Rules.ofScrubbing.lexemes true text.toList) =
      text.toList.count '\n') ∧
    (∀ front behind, Rules.ofScrubbing.lexemes true text.toList = front ++ behind →
      (scrubbed front).count '\n' + joinedLines front = (written front).count '\n') ∧
    ∀ i ∈ includes text, ∃ before between mark behind, Reports text i before between mark behind ∧
      i.line + joinedLines (before ++ .plain '#' :: between) =
        lineBehind (before ++ .plain '#' :: between) := by
  have hfront : ∀ front behind,
      Rules.ofScrubbing.lexemes true text.toList = front ++ behind →
      (scrubbed front).count '\n' + joinedLines front = (written front).count '\n' := by
    intro front behind h
    refine count_scrubbed fun l hl => ?_
    have hmem : l ∈ Rules.ofScrubbing.lexemes true text.toList := by
      rw [h]
      exact List.mem_append_left _ hl
    exact Rules.isSound_of_mem_lexemes hmem
  refine ⟨?_, hfront, fun i hi => ?_⟩
  · have hall := hfront _ [] (List.append_nil _).symm
    rwa [Rules.scrubbed_lexemes, Rules.written_lexemes, ← String.toList_ofList (l := scrubFrom _ _)]
      at hall
  · obtain ⟨before, between, mark, behind, hreports, hline⟩ := exists_reports_of_mem_includes hi
    refine ⟨before, between, mark, behind, hreports, ?_⟩
    have hpieces : Rules.ofScrubbing.lexemes true text.toList =
        (before ++ .plain '#' :: between) ++ .plain mark :: behind := by
      rw [hreports.pieces, List.append_assoc, List.cons_append]
    have hcount := hfront _ _ hpieces
    rw [hline, lineBehind, Nat.add_assoc, hcount]

/-- A comment over two lines and a literal on one, in front of a directive. -/
private def commented : String := "/* one\ntwo */ char *s = \"\\\"\";\n#include <x.h>\n"

/-- The directive of this source is on its third line, and reported there. -/
theorem line_add_joinedLines_commented :
    ((scrub commented).toList.count '\n' + 0 = 3) ∧
    ∃ before between mark behind, Reports commented ⟨"x.h", 3⟩ before between mark behind ∧
      3 + joinedLines (before ++ .plain '#' :: between) =
        lineBehind (before ++ .plain '#' :: between) := by
  have hjoined : joinedLines (Rules.ofScrubbing.lexemes true commented.toList) = 0 := by
    decide +kernel
  have hmem : (⟨"x.h", 3⟩ : Include) ∈ includes commented := by decide +kernel
  obtain ⟨hcount, -, hline⟩ := line_add_joinedLines commented
  rw [hjoined] at hcount
  exact ⟨hcount, hline _ hmem⟩

/-- A literal that goes on over a line feed, in front of a directive. -/
private def joined : String := "\"a\\\nb\";\n#include <x.h>\n"

/-- The directive of this source is on its third line, too, but reported on the second one:
    scrubbing has taken a line feed out of the literal. -/
theorem line_of_directive_lost :
    joined.toList.count '\n' = 3 ∧ (scrub joined).toList.count '\n' = 2 ∧
    joined = String.ofList "\"a\\\nb\";\n".toList ++ "#include <x.h>\n" ∧
    "\"a\\\nb\";\n".toList.count '\n' = 2 ∧ includes joined = [⟨"x.h", 2⟩] := by
  decide +kernel

end MakeAtlas.Source
