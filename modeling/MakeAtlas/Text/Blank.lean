/-!
# Blank characters, trimming and words

`isBlank` is the set of characters that separate words: the ASCII blanks with the four
information separators, and the Unicode space, line and paragraph separators.

* `splitWhen_ne_nil`   even the empty text is cut into one piece
* `after?_eq_some_iff`   what follows a given beginning
* `cutInLine?_eq_some_iff`   what a mark on the first line divides
* `trim_eq_self`   a text with no blank at either end is its own trimmed form
-/

namespace MakeAtlas.Text

/-- The characters that separate words. -/
def isBlank (c : Char) : Bool :=
  let n := c.toNat
  (9 ≤ n && n ≤ 13) || (28 ≤ n && n ≤ 32) || n == 0x85 || n == 0xA0 || n == 0x1680 ||
    (0x2000 ≤ n && n ≤ 0x200A) || n == 0x2028 || n == 0x2029 || n == 0x202F || n == 0x205F ||
    n == 0x3000

/-- Letters and digits are no blanks. -/
theorem isBlank_eq_false_of_isAlphanum {c : Char} (h : c.isAlphanum = true) :
    isBlank c = false := by
  have hword : c.isAlphanum = (decide ('A'.val ≤ c.val ∧ c.val ≤ 'Z'.val) ||
      (decide ('a'.val ≤ c.val) && decide (c.val ≤ 'z'.val)) ||
      (decide ('0'.val ≤ c.val) && decide (c.val ≤ '9'.val))) := rfl
  simp only [hword, Bool.or_eq_true, Bool.and_eq_true, decide_eq_true_eq,
    UInt32.le_iff_toNat_le] at h
  have hA : 'A'.val.toNat = 65 := rfl
  have hZ : 'Z'.val.toNat = 90 := rfl
  have ha : 'a'.val.toNat = 97 := rfl
  have hz : 'z'.val.toNat = 122 := rfl
  have h0 : '0'.val.toNat = 48 := rfl
  have h9 : '9'.val.toNat = 57 := rfl
  have hc : c.toNat = c.val.toNat := rfl
  rw [← Bool.not_eq_true]
  simp only [isBlank, Bool.or_eq_true, Bool.and_eq_true, decide_eq_true_eq, beq_iff_eq]
  omega

/-- A blank that stays on its line: a space or a tab. -/
def isInlineBlank (c : Char) : Bool :=
  c == ' ' || c == '\t'

theorem isBlank_of_isInlineBlank {c : Char} (h : isInlineBlank c = true) : isBlank c = true := by
  simp only [isInlineBlank, Bool.or_eq_true, beq_iff_eq] at h
  rcases h with rfl | rfl <;> rfl

/-- Splits at every character of a class: `n` separators give `n + 1` pieces. -/
def splitWhen (sep : Char → Bool) : List Char → List (List Char)
  | [] => [[]]
  | c :: rest =>
    if sep c then [] :: splitWhen sep rest
    else
      match splitWhen sep rest with
      | [] => [[c]]
      | piece :: pieces => (c :: piece) :: pieces

theorem splitWhen_ne_nil (sep : Char → Bool) (cs : List Char) : splitWhen sep cs ≠ [] := by
  cases cs with
  | nil => simp [splitWhen]
  | cons c rest =>
    simp only [splitWhen]
    split
    · simp
    · split <;> simp

/-- The maximal runs of characters that are not blank. -/
def words (cs : List Char) : List (List Char) :=
  (splitWhen isBlank cs).filter fun word => !word.isEmpty

/-- Drops the blanks at the front. -/
def trimLeft (cs : List Char) : List Char :=
  cs.dropWhile isBlank

/-- Drops the characters of a class at the end. -/
def dropEndWhile (p : Char → Bool) (cs : List Char) : List Char :=
  (cs.reverse.dropWhile p).reverse

/-- Drops the blanks at both ends. -/
def trim (cs : List Char) : List Char :=
  dropEndWhile isBlank (trimLeft cs)

theorem dropEndWhile_eq_self {p : Char → Bool} {cs : List Char}
    (last : ∀ c ∈ cs.getLast?, p c = false) : dropEndWhile p cs = cs := by
  rw [dropEndWhile]
  cases h : cs.reverse with
  | nil => simpa using h.symm
  | cons c rest =>
    have hc : p c = false := last c (by rw [List.getLast?_eq_head?_reverse, h]; rfl)
    rw [List.dropWhile_cons_of_neg (by simp [hc]), ← h, List.reverse_reverse]

theorem trim_eq_self {cs : List Char} (first : ∀ c ∈ cs.head?, isBlank c = false)
    (last : ∀ c ∈ cs.getLast?, isBlank c = false) : trim cs = cs := by
  have front : trimLeft cs = cs := by
    cases cs with
    | nil => rfl
    | cons c rest => exact List.dropWhile_cons_of_neg (by simp [first c (by simp)])
  rw [trim, front, dropEndWhile_eq_self last]

/-- Whether a text begins with another. -/
def hasPrefix (start cs : List Char) : Bool :=
  start.isPrefixOf cs

/-- The rest of a text after a given beginning, if it has that beginning. -/
def after? : List Char → List Char → Option (List Char)
  | [], cs => some cs
  | _ :: _, [] => none
  | p :: ps, c :: cs => if p = c then after? ps cs else none

theorem after?_eq_some_iff {start cs rest : List Char} :
    after? start cs = some rest ↔ cs = start ++ rest := by
  induction start generalizing cs with
  | nil => simp [after?, eq_comm]
  | cons p ps ih =>
    cases cs with
    | nil => simp [after?]
    | cons c cs =>
      by_cases h : p = c
      · simp [after?, h, ih]
      · simp [after?, h, Ne.symm h]

theorem length_lt_of_after? {start cs rest : List Char} (h : after? start cs = some rest)
    (hne : start ≠ []) : rest.length < cs.length := by
  rw [after?_eq_some_iff.1 h, List.length_append]
  have := List.length_pos_iff.2 hne
  omega

/-- The part before the first occurrence of a character, and the part after it. -/
def cut? (mark : Char) : List Char → Option (List Char × List Char)
  | [] => none
  | c :: rest =>
    if c = mark then some ([], rest)
    else (cut? mark rest).map fun (before, behind) => (c :: before, behind)

theorem eq_of_cut? {mark : Char} {cs before behind : List Char}
    (h : cut? mark cs = some (before, behind)) :
    cs = before ++ mark :: behind ∧ mark ∉ before := by
  induction cs generalizing before with
  | nil => simp [cut?] at h
  | cons c rest ih =>
    by_cases hc : c = mark
    · simp [cut?, hc] at h
      obtain ⟨rfl, rfl⟩ := h
      simp [hc]
    · simp only [cut?, hc, if_false, Option.map_eq_some_iff, Prod.exists, Prod.mk.injEq] at h
      obtain ⟨b, d, hcut, rfl, rfl⟩ := h
      obtain ⟨rfl, hb⟩ := ih hcut
      exact ⟨by simp, by simp [hb, Ne.symm hc]⟩

theorem cut?_append {mark : Char} {before behind : List Char} (h : mark ∉ before) :
    cut? mark (before ++ mark :: behind) = some (before, behind) := by
  induction before with
  | nil => simp [cut?]
  | cons c before ih =>
    rw [List.mem_cons, not_or] at h
    simp [cut?, Ne.symm h.1, ih h.2]

/-- The part before the first occurrence of a character on the first line, and the part after it. -/
def cutInLine? (mark : Char) (cs : List Char) : Option (List Char × List Char) :=
  match cut? mark cs with
  | none => none
  | some (before, behind) => if before.contains '\n' then none else some (before, behind)

theorem eq_of_cutInLine? {mark : Char} {cs before behind : List Char}
    (h : cutInLine? mark cs = some (before, behind)) :
    cs = before ++ mark :: behind ∧ mark ∉ before ∧ '\n' ∉ before := by
  unfold cutInLine? at h
  split at h
  · simp at h
  · next b d hcut =>
    split at h
    · simp at h
    · next hline =>
      simp only [Option.some.injEq, Prod.mk.injEq] at h
      obtain ⟨rfl, rfl⟩ := h
      exact ⟨(eq_of_cut? hcut).1, (eq_of_cut? hcut).2, by simpa using hline⟩

theorem cutInLine?_eq_some_iff {mark : Char} {cs before behind : List Char} :
    cutInLine? mark cs = some (before, behind) ↔
      cs = before ++ mark :: behind ∧ mark ∉ before ∧ '\n' ∉ before := by
  refine ⟨eq_of_cutInLine?, ?_⟩
  rintro ⟨rfl, hmark, hline⟩
  rw [cutInLine?, cut?_append hmark]
  simp [hline]

theorem length_cutInLine?_lt {mark : Char} {cs before behind : List Char}
    (h : cutInLine? mark cs = some (before, behind)) : behind.length < cs.length := by
  rw [(eq_of_cutInLine? h).1]
  simp only [List.length_append, List.length_cons]
  omega

/-- The part of a text before the first occurrence of a character, all of it if there is none. -/
def before (mark : Char) (cs : List Char) : List Char :=
  cs.takeWhile (· != mark)

end MakeAtlas.Text
