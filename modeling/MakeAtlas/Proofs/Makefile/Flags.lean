import MakeAtlas.Makefile.Flag
import MakeAtlas.Proofs.ListSplits
import MakeAtlas.Proofs.Text.LinePlaces
import Mathlib.Data.List.TakeWhile

/-!
# The include flags of a Makefile

A flag stands on one line, with its path in it. The search for flags passes over one character where
no flag begins, and over the whole flag where one does; the number of a flag is that of the line
feeds in front of it.

## Key results

- `flagsFrom_flag`, `flagsFrom_pass`: one step of the search
- `exists_place_of_mem_allFlags`: where a flag stands
-/

namespace MakeAtlas.Makefile

open MakeAtlas.Text

/-! ## One flag -/

theorem not_mem_takeWhile_isBareChar (cs : List Char) : '\n' ∉ cs.takeWhile isBareChar :=
  fun hmem => absurd (List.mem_takeWhile_imp hmem) (by decide)

/-- A path stands on the first line of what it is read from. -/
private theorem taken_of_flagPath? {cs path behind : List Char}
    (h : flagPath? cs = some (path, behind)) :
    ∃ taken, cs = taken ++ behind ∧ path <:+: taken ∧ '\n' ∉ taken := by
  have hquoted : ∀ {mark : Char} {rest : List Char}, mark ≠ '\n' →
      cutInLine? mark rest = some (path, behind) →
      ∃ taken, mark :: rest = taken ++ behind ∧ path <:+: taken ∧ '\n' ∉ taken := by
    intro mark rest hmark hcut
    obtain ⟨rfl, -, hline⟩ := cutInLine?_eq_some_iff.1 hcut
    refine ⟨mark :: (path ++ [mark]), by simp, ⟨[mark], [mark], by simp⟩, ?_⟩
    simp [hline, Ne.symm hmark]
  unfold flagPath? at h
  split at h
  · exact hquoted (by decide) h
  · exact hquoted (by decide) h
  · split at h
    · cases h
    · cases h
      exact ⟨cs.takeWhile isBareChar, List.takeWhile_append_dropWhile.symm, List.infix_rfl,
        not_mem_takeWhile_isBareChar cs⟩

/-- A flag with its path stands on the first line of what it is read from. -/
theorem taken_of_flagAt? {previous : Option Char} {cs path behind : List Char}
    (h : flagAt? previous cs = some (path, behind)) :
    ∃ taken, cs = taken ++ behind ∧ ['-', 'I'] <+: taken ∧ path <:+: taken ∧ '\n' ∉ taken := by
  unfold flagAt? at h
  split at h
  · obtain ⟨rest, hafter, hpath⟩ := Option.bind_eq_some_iff.1 h
    obtain ⟨taken, htaken, hpart, hline⟩ := taken_of_flagPath? hpath
    have hblanks : '\n' ∉ rest.takeWhile isInlineBlank :=
      fun hmem => absurd (List.mem_takeWhile_imp hmem) (by decide)
    refine ⟨'-' :: 'I' :: (rest.takeWhile isInlineBlank ++ taken), ?_, ⟨_, rfl⟩, ?_, ?_⟩
    · rw [after?_eq_some_iff.1 hafter]
      simp [← htaken]
    · exact List.infix_cons (List.infix_cons (hpart.trans (List.suffix_append _ _).isInfix))
    · simp [hblanks, hline]
  · cases h

/-! ## The search for flags -/

/-- Where a flag begins, the search goes on behind it. -/
theorem flagsFrom_flag {previous : Option Char} {taken path behind : List Char}
    (h : flagAt? previous (taken ++ behind) = some (path, behind)) (line : Nat) :
    flagsFrom previous line (taken ++ behind) =
      (path, line) :: flagsFrom taken.getLast? line behind := by
  cases hcs : taken ++ behind with
  | nil =>
    have hlt := length_lt_of_flagAt? h
    simp [hcs] at hlt
  | cons c rest =>
    rw [flagsFrom]
    split
    · next path' behind' hfound =>
      have hsame := hfound.symm.trans (hcs ▸ h)
      cases hsame
      simp only [← hcs, take_length_sub]
    · next hnone => cases hnone.symm.trans (hcs ▸ h)

/-- Where no flag begins, the search passes over one character. -/
theorem flagsFrom_pass {previous : Option Char} {c : Char} {rest : List Char}
    (h : flagAt? previous (c :: rest) = none) (line : Nat) :
    flagsFrom previous line (c :: rest) =
      flagsFrom (some c) (line + [c].count '\n') rest := by
  rw [flagsFrom]
  split
  · next hfound => cases hfound.symm.trans h
  · by_cases hc : c = '\n'
    · simp [hc]
    · simp [hc]

/-- What is found stands on a line, whose number is that of the line feeds in front of it. -/
theorem exists_place_of_mem_flagsFrom {previous : Option Char} {line number : Nat}
    {cs path : List Char} (h : (path, number) ∈ flagsFrom previous line cs) :
    ∃ front taken behind, cs = front ++ taken ++ behind ∧ ['-', 'I'] <+: taken ∧
      path <:+: taken ∧ '\n' ∉ taken ∧ number = line + front.count '\n' := by
  -- Strong induction on the length: a flag is passed over as a whole
  induction hn : cs.length using Nat.strongRecOn generalizing previous line cs with
  | ind n ih =>
    cases cs with
    | nil => simp [flagsFrom] at h
    | cons c rest =>
      cases hflag : flagAt? previous (c :: rest) with
      | some found =>
        obtain ⟨path', behind⟩ := found
        obtain ⟨taken, hcs, hflagged, hpart, hline⟩ := taken_of_flagAt? hflag
        have hlt := length_lt_of_flagAt? hflag
        rw [hcs] at hflag
        rw [hcs, flagsFrom_flag hflag, List.mem_cons] at h
        rcases h with hfirst | h
        · cases hfirst
          exact ⟨[], taken, behind, hcs, hflagged, hpart, hline, by simp⟩
        · -- the flag in front is on one line
          obtain ⟨front, taken', behind', rfl, hplace, hpart', hline', hnumber⟩ :=
            ih _ (hn ▸ hlt) h rfl
          refine ⟨taken ++ front, taken', behind', by simp [hcs], hplace, hpart', hline', ?_⟩
          rw [List.count_append, List.count_eq_zero.2 hline, Nat.zero_add, hnumber]
      | none =>
        rw [flagsFrom_pass hflag] at h
        obtain ⟨front, taken, behind, rfl, hplace, hpart, hline, hnumber⟩ :=
          ih _ (by rw [← hn]; simp) h rfl
        refine ⟨c :: front, taken, behind, rfl, hplace, hpart, hline, ?_⟩
        rw [← List.singleton_append, List.count_append, ← Nat.add_assoc, hnumber]

/-- A flag stands on a line with its path in it, and its number counts the line feeds in front. -/
theorem exists_place_of_mem_allFlags {text : String} {flag : Flag} (h : flag ∈ allFlags text) :
    ∃ front taken behind, text.toList = front ++ taken ++ behind ∧ ['-', 'I'] <+: taken ∧
      flag.path.toList <:+: taken ∧ '\n' ∉ taken ∧ flag.line = 1 + front.count '\n' := by
  obtain ⟨⟨path, number⟩, hfound, hflag⟩ := List.mem_filterMap.1 h
  obtain ⟨front, taken, behind, htext, hplace, hpart, hline, hnumber⟩ :=
    exists_place_of_mem_flagsFrom hfound
  dsimp only at hflag
  split at hflag
  · cases hflag
  · cases hflag
    refine ⟨front, taken, behind, htext, hplace, ?_, hline, hnumber⟩
    rw [String.toList_ofList]
    exact (trim_isInfix path).trans hpart

end MakeAtlas.Makefile
