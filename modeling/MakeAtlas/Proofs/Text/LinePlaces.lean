import MakeAtlas.Proofs.Text.JoinedLines
import Mathlib.Data.List.Basic

/-!
# Where lines and words stand in a text

A line of a text stands between two line ends, and its number is the number of line ends in front of
it. Where a text is divided at line feeds only, the line stands in the piece whose number is that of
the line feeds in front. The two numbers differ by the other line ends in front.

## Key results

- `infix_of_mem_words`, `trim_isInfix`: parts of a text
- `exists_place_of_lines_eq`: where a line stands
- `exists_part`: where a part of a line stands among the pieces between line feeds
- `countP_isTerminator`: all line ends, line feeds and others
-/

namespace MakeAtlas.Text

/-! ## Parts of a text -/

/-- The pieces of a text are parts of it, and the first one begins it. -/
private theorem infix_of_splitWhen (sep : Char → Bool) (cs : List Char) :
    (∀ piece ∈ (splitWhen sep cs).head?, piece <+: cs) ∧
      ∀ piece ∈ splitWhen sep cs, piece <:+: cs := by
  induction cs with
  | nil => simp [splitWhen]
  | cons c cs ih =>
    obtain ⟨hfirst, hall⟩ := ih
    rw [splitWhen]
    split
    · refine ⟨by simp, fun piece hpiece => ?_⟩
      rcases List.mem_cons.1 hpiece with rfl | hpiece
      · exact List.nil_infix
      · exact List.infix_cons (hall piece hpiece)
    · split
      · next hnil => exact absurd hnil (splitWhen_ne_nil sep cs)
      · next first pieces hpieces =>
        rw [hpieces] at hfirst hall
        -- the character goes to the front of the first piece
        have hbegins : c :: first <+: c :: cs :=
          (List.prefix_cons_inj c).2 (hfirst first rfl)
        refine ⟨fun piece hpiece => by cases hpiece; exact hbegins, fun piece hpiece => ?_⟩
        rcases List.mem_cons.1 hpiece with rfl | hpiece
        · exact hbegins.isInfix
        · exact List.infix_cons (hall piece (List.mem_cons_of_mem _ hpiece))

/-- The words of a text are parts of it. -/
theorem infix_of_mem_words {word cs : List Char} (h : word ∈ words cs) : word <:+: cs :=
  (infix_of_splitWhen isBlank cs).2 word (List.mem_filter.1 h).1

/-- What is left between blanks is a part of a text. -/
theorem trim_isInfix (cs : List Char) : trim cs <:+: cs := by
  have hend : dropEndWhile isBlank (trimLeft cs) <+: trimLeft cs :=
    List.reverse_suffix.1 (by
      rw [dropEndWhile, List.reverse_reverse]
      exact List.dropWhile_suffix _)
  exact hend.isInfix.trans (List.dropWhile_suffix _).isInfix

/-- What stands in front of a mark begins a text. -/
theorem before_isPrefix (mark : Char) (cs : List Char) : before mark cs <+: cs :=
  List.takeWhile_prefix _

/-! ## Lines -/

/-- A line of a text with what stands in front of it and behind it: nothing ends a line within, and
what is around ends lines. -/
structure IsLine (front line behind : List Char) : Prop where
  within : ∀ c ∈ line, isTerminator c = false
  opened : ∀ c ∈ front.getLast?, isTerminator c = true
  closed : ∀ c ∈ behind.head?, isTerminator c = true

/-- Without carriage returns, a line stands behind as many line ends as there are lines in front of
it. -/
theorem exists_place_of_lines_eq {cs : List Char} (hreturn : '\r' ∉ cs)
    {before : List (List Char)} {line : List Char} {after : List (List Char)}
    (h : lines cs = before ++ line :: after) :
    ∃ front behind, cs = front ++ line ++ behind ∧ IsLine front line behind ∧
      front.countP isTerminator = before.length := by
  -- The induction is on the text, a line and the character that ends it at a time
  induction cs using pieceInduction isTerminator generalizing before with
  | last piece hpiece =>
    by_cases hne : piece = []
    · subst hne
      simp [lines] at h
    · -- the line is the only one
      rw [lines_of_forall hpiece hne] at h
      rcases List.singleton_eq_append_iff.1 h with ⟨rfl, honly⟩ | ⟨-, hnil⟩
      · cases honly
        exact ⟨[], [], by simp, ⟨hpiece, by simp, by simp⟩, rfl⟩
      · cases hnil
  | more piece c rest hpiece hc ih =>
    have hother : c ≠ '\r' := by
      rintro rfl
      exact hreturn (List.mem_append_right _ List.mem_cons_self)
    rw [lines_of_ended hpiece hc fun heq => absurd heq hother] at h
    cases before with
    | nil =>
      -- the line is the first one
      simp only [List.nil_append, List.cons.injEq] at h
      obtain ⟨rfl, -⟩ := h
      exact ⟨[], c :: rest, rfl, ⟨hpiece, by simp, by simpa using hc⟩, rfl⟩
    | cons first before =>
      simp only [List.cons_append, List.cons.injEq] at h
      obtain ⟨rfl, hrest⟩ := h
      have hmore : '\r' ∉ rest := fun hmem =>
        hreturn (List.mem_append_right _ (List.mem_cons_of_mem c hmem))
      obtain ⟨front, behind, rfl, hline, hcount⟩ := ih hmore hrest
      have hnone : piece.countP isTerminator = 0 :=
        List.countP_eq_zero.2 fun d hd => by simp [hpiece d hd]
      refine ⟨piece ++ c :: front, behind, by simp, ⟨hline.within, ?_, hline.closed⟩, ?_⟩
      · -- either the first line's own end is in front, or what is in front of the line in the rest
        intro d hd
        rw [List.getLast?_append_of_ne_nil _ (List.cons_ne_nil c front)] at hd
        cases front with
        | nil =>
          cases hd
          exact hc
        | cons e front => exact hline.opened d (by rwa [List.getLast?_cons_cons] at hd)
      · rw [List.countP_append, hnone, List.countP_cons_of_pos hc, hcount, List.length_cons,
          Nat.zero_add]

/-! ## Pieces between line feeds -/

/-- A part of a line stands in the piece whose number is that of the line feeds in front. -/
theorem exists_part {taken : List Char} (h : '\n' ∉ taken) (front behind : List Char) :
    ∃ part, (newlineParts (front ++ taken ++ behind))[front.count '\n']? = some part ∧
      taken <:+: part := by
  induction front using lineInduction with
  | last line hline =>
    rw [List.count_eq_zero.2 hline]
    by_cases hmem : '\n' ∈ behind
    · -- the piece goes on to the next line feed
      obtain ⟨more, rest, rfl, hmore⟩ := List.eq_append_cons_of_mem hmem
      refine ⟨line ++ taken ++ more, ?_, ⟨line, more, rfl⟩⟩
      rw [← List.append_assoc, newlineParts_line (by simp [hline, h, hmore]),
        List.getElem?_cons_zero]
    · refine ⟨line ++ taken ++ behind, ?_, ⟨line, behind, rfl⟩⟩
      rw [newlineParts_of_not_mem (by simp [hline, h, hmem]), List.getElem?_cons_zero]
  | more line rest hline ih =>
    obtain ⟨part, hpart, htaken⟩ := ih
    refine ⟨part, ?_, htaken⟩
    rw [List.append_assoc, List.append_assoc, List.cons_append, newlineParts_line hline,
      List.count_append, List.count_eq_zero.2 hline, List.count_cons_self, Nat.zero_add,
      List.getElem?_cons_succ, ← List.append_assoc, hpart]

/-- How many line ends of a text are no line feeds. -/
def otherEnds (cs : List Char) : Nat :=
  cs.countP fun c => isTerminator c && c != '\n'

/-- The line ends of a text are its line feeds and the others. -/
theorem countP_isTerminator (cs : List Char) :
    cs.countP isTerminator = cs.count '\n' + otherEnds cs := by
  rw [otherEnds, List.count]
  induction cs with
  | nil => rfl
  | cons c cs ih =>
    by_cases hfeed : c = '\n'
    · subst hfeed
      rw [List.countP_cons_of_pos rfl, List.countP_cons_of_pos rfl,
        List.countP_cons_of_neg (by simp), ih]
      omega
    · by_cases hc : isTerminator c = true
      · rw [List.countP_cons_of_pos hc, List.countP_cons_of_neg (by simpa using hfeed),
          List.countP_cons_of_pos (by simp [hc, hfeed]), ih]
        omega
      · rw [List.countP_cons_of_neg hc, List.countP_cons_of_neg (by simpa using hfeed),
          List.countP_cons_of_neg (by simp [hc]), ih]

theorem otherEnds_eq_zero_iff {cs : List Char} :
    otherEnds cs = 0 ↔ ∀ c ∈ cs, isTerminator c = true → c = '\n' := by
  rw [otherEnds, List.countP_eq_zero]
  exact forall₂_congr fun c _ => by simp

end MakeAtlas.Text
