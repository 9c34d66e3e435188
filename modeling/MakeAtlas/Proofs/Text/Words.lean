import MakeAtlas.Proofs.Path.Normal
import MakeAtlas.Proofs.Text.JoinedLines

/-!
# The words of a text

A text is words and blanks: a word is not empty and holds no blank, and between two words there is
some blank. There is only one way to see a text so.

## Key results

- `words_eq_iff`: the words of a text are those that it is made of, with blanks around them
- `hasWords_intercalate`: words with a space between any two
- `HasWords.isBlank_or_mem`: the characters of a text are blanks and characters of its words
-/

namespace MakeAtlas.Text

/-- Characters that make a word. -/
structure IsWord (w : List Char) : Prop where
  ne_nil : w ≠ []
  noBlank : ∀ c ∈ w, isBlank c = false

/-- A text is made of some words, in order, and of blanks around them. -/
inductive HasWords : List Char → List (List Char) → Prop
  | nil : HasWords [] []
  | blank {c : Char} {cs : List Char} {ws : List (List Char)} (blank : isBlank c = true)
    (rest : HasWords cs ws) : HasWords (c :: cs) ws
  | word {w cs : List Char} {ws : List (List Char)} (isWord : IsWord w)
    (ended : ∀ c ∈ cs.head?, isBlank c = true) (rest : HasWords cs ws) :
    HasWords (w ++ cs) (w :: ws)

/-! ## Reading words -/

theorem words_blank {c : Char} (h : isBlank c = true) (cs : List Char) :
    words (c :: cs) = words cs := by
  rw [words, splitWhen, if_pos h, List.filter_cons_of_neg (by simp), ← words]

/-- A word is read off, up to the blank that follows it. -/
theorem words_word {word : List Char} (h : IsWord word) {rest : List Char}
    (hrest : ∀ c ∈ rest.head?, isBlank c = true) : words (word ++ rest) = word :: words rest := by
  have hkept : ∀ more, (word :: more).filter (fun w => !w.isEmpty) =
      word :: more.filter fun w => !w.isEmpty := fun more =>
    List.filter_cons_of_pos (by simpa using h.ne_nil)
  cases rest with
  | nil =>
    rw [words, splitWhen_eq_splitOnP, List.append_nil, List.splitOnP_eq_singleton h.noBlank, hkept]
    rfl
  | cons c rest =>
    have hc : isBlank c = true := hrest c rfl
    rw [words_blank hc, words, splitWhen_eq_splitOnP,
      List.splitOnP_append_cons_of_forall_mem h.noBlank _ hc, hkept, ← splitWhen_eq_splitOnP,
      ← words]

/-- A piece without blanks, in front of a blank or at the end, is a word unless it is empty. -/
private theorem hasWords_piece {piece rest : List Char} (h : ∀ c ∈ piece, isBlank c = false)
    (hrest : ∀ c ∈ rest.head?, isBlank c = true) (hwords : HasWords rest (words rest)) :
    HasWords (piece ++ rest) (words (piece ++ rest)) := by
  cases piece with
  | nil => exact hwords
  | cons c piece =>
    have hword : IsWord (c :: piece) := ⟨List.cons_ne_nil c piece, h⟩
    rw [words_word hword hrest]
    exact .word hword hrest hwords

/-- Every text is made of its words. -/
theorem hasWords_words (cs : List Char) : HasWords cs (words cs) := by
  induction cs using pieceInduction isBlank with
  | last piece h =>
    have hpiece : HasWords (piece ++ []) (words (piece ++ [])) := hasWords_piece h nofun .nil
    rwa [List.append_nil] at hpiece
  | more piece c rest h hc ih =>
    refine hasWords_piece h ?_ ?_
    · rintro _ ⟨⟩
      exact hc
    · rw [words_blank hc]
      exact .blank hc ih

/-- The words of a text are those that it is made of. -/
theorem words_eq_iff {cs : List Char} {ws : List (List Char)} :
    words cs = ws ↔ HasWords cs ws := by
  constructor
  · rintro rfl
    exact hasWords_words cs
  · intro h
    induction h with
    | nil => rfl
    | blank hc _ ih => rw [words_blank hc, ih]
    | word hword hended _ ih => rw [words_word hword hended, ih]

/-! ## What a text is made of -/

theorem HasWords.isWord {cs : List Char} {ws : List (List Char)} (h : HasWords cs ws) :
    ∀ w ∈ ws, IsWord w := by
  induction h with
  | nil => exact nofun
  | blank _ _ ih => exact ih
  | word hword _ _ ih => exact List.forall_mem_cons.2 ⟨hword, ih⟩

/-- A character of a text is a blank or stands in one of the words that the text is made of. -/
theorem HasWords.isBlank_or_mem {cs : List Char} {ws : List (List Char)} (h : HasWords cs ws)
    {c : Char} (hc : c ∈ cs) : isBlank c = true ∨ ∃ w ∈ ws, c ∈ w := by
  induction h with
  | nil => cases hc
  | blank hblank _ ih =>
    rcases List.mem_cons.1 hc with rfl | hc
    · exact Or.inl hblank
    · exact ih hc
  | word _ _ _ ih =>
    rcases List.mem_append.1 hc with hc | hc
    · exact Or.inr ⟨_, List.mem_cons_self, hc⟩
    · refine (ih hc).imp_right ?_
      rintro ⟨w, hw, hcw⟩
      exact ⟨w, List.mem_cons_of_mem _ hw, hcw⟩

/-- Words with a space between any two. -/
theorem hasWords_intercalate {ws : List (List Char)} (h : ∀ w ∈ ws, IsWord w) :
    HasWords ([' '].intercalate ws) ws := by
  induction ws with
  | nil => exact .nil
  | cons w ws ih =>
    rw [List.forall_mem_cons] at h
    cases ws with
    | nil =>
      have hword : HasWords (w ++ []) [w] := .word h.1 nofun .nil
      rw [List.append_nil] at hword
      rwa [List.intercalate_singleton]
    | cons next ws =>
      rw [List.intercalate_cons_cons, List.append_assoc]
      refine .word h.1 ?_ (.blank rfl (ih h.2))
      rintro _ ⟨⟩
      rfl

end MakeAtlas.Text
