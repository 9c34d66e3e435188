import MakeAtlas.Proofs.DistinctBlocks
import MakeAtlas.Proofs.Makefile.Flags

/-!
# Printed include flags

Include flags may be written between other words, on any number of lines. A path that has blanks in
it is written between quotes; any other one may be written without. Such a text is read back as the
flags that were written, the first one of each path, with the numbers of their lines.

## Key results

- `flagsFrom_passed`: the search passes over a text in which no flag begins
- `flagAt?_chars`: a written flag is read with its path
- `flagsFrom_items`: the search over written flags and words
- `allFlags_text`: what the search finds in a written text
- `flags_text`: the flags of a written text
-/

namespace MakeAtlas.Makefile

open MakeAtlas.Text

/-! ## How flags are written -/

/-- A search path: no blank stands around it, and no quote, line feed or variable in it. -/
structure SearchPath where
  chars : List Char
  ne_nil : chars ≠ []
  first : ∀ c ∈ chars.head?, isBlank c = false
  last : ∀ c ∈ chars.getLast?, isBlank c = false
  unquoted : '"' ∉ chars ∧ '\'' ∉ chars
  inLine : '\n' ∉ chars
  resolved : '$' ∉ chars

/-- What stands around a path. -/
inductive Quoting where
  | bare
  | double
  | single
  deriving DecidableEq, Repr

/-- The mark on either side of a path. -/
def Quoting.mark : Quoting → List Char
  | bare => []
  | double => ['"']
  | single => ['\'']

/-- A flag as it is written, with spaces and tabs in front of its path. -/
structure FlagText where
  gap : List Char
  inLine : ∀ c ∈ gap, isInlineBlank c = true
  quoting : Quoting
  path : SearchPath
  /-- A path with blanks in it is quoted. -/
  fits : quoting = .bare → ∀ c ∈ path.chars, isBlank c = false

def FlagText.chars (f : FlagText) : List Char :=
  '-' :: 'I' :: (f.gap ++ (f.quoting.mark ++ (f.path.chars ++ f.quoting.mark)))

/-- A word that is no flag and has none in it. -/
structure OtherWord where
  chars : List Char
  noBlank : ∀ c ∈ chars, isBlank c = false
  noFlag : ¬ ['-', 'I'] <:+: chars

inductive Piece where
  | flag (f : FlagText)
  | word (w : OtherWord)

def Piece.chars : Piece → List Char
  | flag f => f.chars
  | word w => w.chars

/-- A flag or a word with the blanks in front of it, line ends among them. -/
structure Item where
  gap : List Char
  blank : ∀ c ∈ gap, isBlank c = true
  piece : Piece

def Item.chars (item : Item) : List Char :=
  item.gap ++ item.piece.chars

/-- A text of flags and words. They stand apart; the first one may begin the text. -/
structure FlagLines where
  items : List Item
  apart : ∀ item ∈ items.tail, item.gap ≠ []
  tail : List Char
  blankTail : ∀ c ∈ tail, isBlank c = true

def FlagLines.text (l : FlagLines) : String :=
  .ofList (l.items.flatMap Item.chars ++ l.tail)

/-- The flags among items that stand behind a text, each with one more than the number of line feeds
    in front of it. -/
def writtenFlags (front : List Char) : List Item → List Flag
  | [] => []
  | item :: items =>
    match item.piece with
    | .flag f =>
      ⟨.ofList f.path.chars, 1 + (front ++ item.gap).count '\n'⟩ ::
        writtenFlags (front ++ item.chars) items
    | .word _ => writtenFlags (front ++ item.chars) items

/-! ## Passing over words and blanks -/

theorem flagAt?_eq_none {cs : List Char} (h : ¬ ['-', 'I'] <+: cs) (previous : Option Char) :
    flagAt? previous cs = none := by
  rw [Option.eq_none_iff_forall_ne_some]
  rintro ⟨path, behind⟩ hflag
  obtain ⟨taken, rfl, hbegins, -, -⟩ := taken_of_flagAt? hflag
  exact h (hbegins.trans (List.prefix_append _ _))

/-- The search passes over a text in which no flag begins. -/
theorem flagsFrom_passed {cs rest : List Char} (h : ¬ ['-', 'I'] <:+: cs)
    (hrest : cs.getLast? = some '-' → rest.head? ≠ some 'I') (previous : Option Char)
    (line : Nat) :
    flagsFrom previous line (cs ++ rest) =
      flagsFrom (cs.getLast?.or previous) (line + cs.count '\n') rest := by
  induction cs generalizing previous line with
  | nil => simp
  | cons c cs ih =>
    rw [pair_infix_cons_iff, not_or, not_and] at h
    have hnone : ¬ ['-', 'I'] <+: c :: (cs ++ rest) := by
      intro hbegins
      obtain ⟨hc, hnext⟩ := List.cons_prefix_cons.1 hbegins
      cases cs with
      | nil =>
        -- the flag would go on in the rest
        obtain ⟨more, rfl⟩ := hnext
        exact hrest (by rw [← hc]; rfl) rfl
      | cons d cs =>
        obtain ⟨hd, -⟩ := List.cons_prefix_cons.1 hnext
        exact h.1 hc.symm (by rw [← hd]; rfl)
    have hlast : cs.getLast? = some '-' → rest.head? ≠ some 'I' := by
      intro hcs
      refine hrest ?_
      rw [List.getLast?_cons, hcs]
      rfl
    have hprevious : cs.getLast?.or (some c) = (c :: cs).getLast?.or previous := by
      rw [List.getLast?_cons]
      cases cs.getLast? <;> rfl
    rw [List.cons_append, flagsFrom_pass (flagAt?_eq_none hnone previous), ih h.2 hlast,
      hprevious, count_lineFeed_cons c cs, Nat.add_assoc]

/-- No flag begins in blanks. -/
theorem flagsFrom_blanks {gap : List Char} (h : ∀ c ∈ gap, isBlank c = true) (rest : List Char)
    (previous : Option Char) (line : Nat) :
    flagsFrom previous line (gap ++ rest) =
      flagsFrom (gap.getLast?.or previous) (line + gap.count '\n') rest := by
  have hdash : '-' ∉ gap := fun hmem => absurd (h _ hmem) (by decide)
  refine flagsFrom_passed (fun hpart => hdash (hpart.subset List.mem_cons_self)) ?_ previous line
  intro hlast
  exact absurd (List.mem_of_getLast? hlast) hdash

/-- No flag begins in a word, and a blank behind it does not make it one. -/
theorem flagsFrom_word (w : OtherWord) {rest : List Char}
    (hrest : ∀ c ∈ rest.head?, isBlank c = true) (previous : Option Char) (line : Nat) :
    flagsFrom previous line (w.chars ++ rest) =
      flagsFrom (w.chars.getLast?.or previous) (line + w.chars.count '\n') rest :=
  flagsFrom_passed w.noFlag (fun _ hhead => absurd (hrest 'I' hhead) (by decide)) previous line

/-! ## Reading one flag -/

/-- A quoted path is read up to the mark behind it. -/
private theorem cutInLine?_path (p : SearchPath) {mark : Char} (h : mark ∉ p.chars)
    (rest : List Char) : cutInLine? mark (p.chars ++ mark :: rest) = some (p.chars, rest) :=
  cutInLine?_eq_some_iff.2 ⟨rfl, h, p.inLine⟩

/-- A bare path is read up to the blank behind it. -/
private theorem flagPath?_bare (p : SearchPath) (h : ∀ c ∈ p.chars, isBlank c = false)
    {rest : List Char} (hrest : ∀ c ∈ rest.head?, isBlank c = true) :
    flagPath? (p.chars ++ rest) = some (p.chars, rest) := by
  obtain ⟨c, cs, hcs⟩ := List.exists_cons_of_ne_nil p.ne_nil
  have hbare : ∀ d ∈ p.chars, isBareChar d = true := by
    intro d hd
    have hdouble : d ≠ '"' := fun heq => p.unquoted.1 (heq ▸ hd)
    have hsingle : d ≠ '\'' := fun heq => p.unquoted.2 (heq ▸ hd)
    simp [isBareChar, h d hd, hdouble, hsingle]
  have hend : ∀ d ∈ rest.head?, isBareChar d = false := by
    intro d hd
    simp [isBareChar, hrest d hd]
  unfold flagPath?
  split
  · next hquote =>
    -- the path itself would begin with a quote
    rw [hcs] at hquote
    cases hquote
    exact absurd (by rw [hcs]; exact List.mem_cons_self) p.unquoted.1
  · next hquote =>
    rw [hcs] at hquote
    cases hquote
    exact absurd (by rw [hcs]; exact List.mem_cons_self) p.unquoted.2
  · rw [takeWhile_append_of_head? hbare hend, dropWhile_append_of_head? hbare hend]
    split
    · next hnil => exact absurd hnil p.ne_nil
    · rfl

/-- A path is read up to its end, whatever stands around it. -/
theorem flagPath?_quoting (f : FlagText) {rest : List Char}
    (hrest : ∀ c ∈ rest.head?, isBlank c = true) :
    flagPath? (f.quoting.mark ++ (f.path.chars ++ (f.quoting.mark ++ rest))) =
      some (f.path.chars, rest) := by
  cases hquoting : f.quoting with
  | bare => exact flagPath?_bare f.path (f.fits hquoting) hrest
  | double => exact cutInLine?_path f.path f.path.unquoted.1 rest
  | single => exact cutInLine?_path f.path f.path.unquoted.2 rest

/-- The spaces and tabs of a written flag end where its path, or the mark in front of it, begins. -/
private theorem dropWhile_gap (f : FlagText) (rest : List Char) :
    (f.gap ++ (f.quoting.mark ++ (f.path.chars ++ (f.quoting.mark ++ rest)))).dropWhile
        isInlineBlank =
      f.quoting.mark ++ (f.path.chars ++ (f.quoting.mark ++ rest)) := by
  refine dropWhile_append_of_head? f.inLine fun c hc => ?_
  cases hquoting : f.quoting with
  | bare =>
    obtain ⟨d, cs, hcs⟩ := List.exists_cons_of_ne_nil f.path.ne_nil
    rw [hquoting, Quoting.mark, hcs] at hc
    cases hc
    have hblank := f.path.first c (by rw [hcs]; rfl)
    exact Bool.eq_false_iff.2 fun hinline => by simp [isBlank_of_isInlineBlank hinline] at hblank
  | double =>
    rw [hquoting] at hc
    cases hc
    decide
  | single =>
    rw [hquoting] at hc
    cases hc
    decide

/-- A written flag is read with its path. -/
theorem flagAt?_chars (f : FlagText) {previous : Option Char}
    (hstart : startsFlag previous = true) {rest : List Char}
    (hrest : ∀ c ∈ rest.head?, isBlank c = true) :
    flagAt? previous (f.chars ++ rest) = some (f.path.chars, rest) := by
  have hafter : after? ['-', 'I'] (f.chars ++ rest) =
      some (f.gap ++ (f.quoting.mark ++ (f.path.chars ++ (f.quoting.mark ++ rest)))) :=
    after?_eq_some_iff.2 (by simp [FlagText.chars])
  rw [flagAt?, if_pos hstart, hafter, Option.bind_some, dropWhile_gap, flagPath?_quoting f hrest]

/-- A written flag stays on its line. -/
theorem FlagText.inLine_chars (f : FlagText) : '\n' ∉ f.chars := by
  have hgap : '\n' ∉ f.gap := fun hmem => absurd (f.inLine _ hmem) (by decide)
  have hmark : '\n' ∉ f.quoting.mark := by cases f.quoting <;> decide
  simp [FlagText.chars, hgap, hmark, f.path.inLine]

/-! ## Reading the whole text -/

/-- Whatever follows a flag or a word starts with a blank. -/
private theorem isBlank_of_head? {items : List Item} (apart : ∀ item ∈ items, item.gap ≠ [])
    {tail : List Char} (htail : ∀ c ∈ tail, isBlank c = true) :
    ∀ c ∈ (items.flatMap Item.chars ++ tail).head?, isBlank c = true := by
  intro c hc
  cases items with
  | nil => exact htail c (List.mem_of_mem_head? hc)
  | cons item items =>
    obtain ⟨d, gap, hgap⟩ := List.exists_cons_of_ne_nil (apart item List.mem_cons_self)
    have hd : d = c := by simpa [Item.chars, hgap] using hc
    exact hd ▸ item.blank d (by rw [hgap]; exact List.mem_cons_self)

/-- A flag may begin behind blanks, or where one might have begun in front of them. -/
private theorem startsFlag_behind {gap : List Char} (h : ∀ c ∈ gap, isBlank c = true)
    {previous : Option Char} (hstart : gap ≠ [] ∨ startsFlag previous = true) :
    startsFlag (gap.getLast?.or previous) = true := by
  cases hlast : gap.getLast? with
  | none =>
    rw [List.getLast?_eq_none_iff] at hlast
    exact hstart.resolve_left fun hne => hne hlast
  | some c => simp [startsFlag, h c (List.mem_of_getLast? hlast)]

/-- The search finds the flags of a text as they were written, given what stands in front. -/
theorem flagsFrom_items {items : List Item} (apart : ∀ item ∈ items.tail, item.gap ≠ [])
    {tail : List Char} (htail : ∀ c ∈ tail, isBlank c = true) (front : List Char)
    {previous : Option Char}
    (hstart : (∀ item ∈ items.head?, item.gap ≠ []) ∨ startsFlag previous = true) :
    flagsFrom previous (1 + front.count '\n') (items.flatMap Item.chars ++ tail) =
      (writtenFlags front items).map fun flag => (flag.path.toList, flag.line) := by
  -- The induction is on the items, over everything that may stand in front of them
  induction items generalizing front previous with
  | nil =>
    have hnone := flagsFrom_blanks htail [] previous (1 + front.count '\n')
    rw [List.append_nil, flagsFrom] at hnone
    exact hnone
  | cons item items ih =>
    have hafter : ∀ later ∈ items, later.gap ≠ [] := apart
    have hrest := isBlank_of_head? hafter htail
    -- whatever is in front of the next item, the item stands apart from it
    have hnext : ∀ previous, flagsFrom previous (1 + (front ++ item.chars).count '\n')
        (items.flatMap Item.chars ++ tail) =
        (writtenFlags (front ++ item.chars) items).map fun flag =>
          (flag.path.toList, flag.line) := fun previous =>
      ih (fun later hlater => hafter later (List.mem_of_mem_tail hlater)) _
        (Or.inl fun later hlater => hafter later (List.mem_of_mem_head? hlater))
    have hnumber : 1 + front.count '\n' + item.gap.count '\n' =
        1 + (front ++ item.gap).count '\n' := by
      rw [List.count_append, Nat.add_assoc]
    rw [List.flatMap_cons, List.append_assoc, Item.chars, List.append_assoc,
      flagsFrom_blanks item.blank, hnumber]
    rw [Item.chars, ← List.append_assoc, List.count_append, ← Nat.add_assoc] at hnext
    -- behind the blanks the search either passes over a word or reads a flag
    cases hpiece : item.piece with
    | word w =>
      rw [hpiece] at hnext
      simp only [Piece.chars] at hnext ⊢
      rw [flagsFrom_word w hrest, hnext]
      simp only [writtenFlags, hpiece, Item.chars, Piece.chars, List.append_assoc]
    | flag f =>
      have hbegins := startsFlag_behind item.blank (hstart.imp (fun h => h item rfl) id)
      rw [hpiece] at hnext
      simp only [Piece.chars, List.count_eq_zero.2 f.inLine_chars, Nat.add_zero] at hnext ⊢
      rw [flagsFrom_flag (flagAt?_chars f hbegins hrest), hnext]
      simp only [writtenFlags, hpiece, Item.chars, Piece.chars, List.append_assoc, List.map_cons,
        String.toList_ofList]

/-- What the search finds is kept as it is written. -/
private theorem usable_writtenFlags (front : List Char) (items : List Item) :
    ∀ flag ∈ writtenFlags front items,
      trim flag.path.toList = flag.path.toList ∧ flag.path.toList ≠ [] ∧
        '$' ∉ flag.path.toList := by
  induction items generalizing front with
  | nil => simp [writtenFlags]
  | cons item items ih =>
    intro flag hflag
    rw [writtenFlags] at hflag
    split at hflag
    · next f _ =>
      rcases List.mem_cons.1 hflag with rfl | hflag
      · rw [String.toList_ofList]
        exact ⟨trim_eq_self f.path.first f.path.last, f.path.ne_nil, f.path.resolved⟩
      · exact ih _ flag hflag
    · exact ih _ flag hflag

/-- The first of the written flags with each path are found. -/
structure ListsFirsts (written found : List Flag) : Prop where
  /-- A flag is found exactly if it was written and no flag in front of it has its path, -/
  mem_iff : ∀ flag, flag ∈ found ↔ ∃ before after, written = before ++ flag :: after ∧
    ∀ earlier ∈ before, earlier.path ≠ flag.path
  /-- each path once, -/
  once : (found.map Flag.path).Nodup
  /-- in the order in which the paths were first written. -/
  inOrder : found.Pairwise fun flag later => ∃ before after, written = before ++ flag :: after ∧
    ∀ earlier ∈ before ++ [flag], earlier.path ≠ later.path

/-- Every flag of a written text is found, and nothing else. -/
theorem allFlags_text (l : FlagLines) : allFlags l.text = writtenFlags [] l.items := by
  have hfound := flagsFrom_items l.apart l.blankTail [] (Or.inr (rfl : startsFlag none = true))
  rw [allFlags, FlagLines.text, String.toList_ofList]
  rw [List.count_nil, Nat.add_zero] at hfound
  rw [hfound, List.filterMap_map]
  refine (List.filterMap_congr fun flag hflag => ?_).trans (List.filterMap_some)
  obtain ⟨htrim, hne, hdollar⟩ := usable_writtenFlags [] l.items flag hflag
  simp [htrim, hne, hdollar]

/-- The flags of a written text are the first ones of each path, in order, each with one more than
    the number of line feeds in front of it. -/
theorem flags_text (l : FlagLines) : ListsFirsts (writtenFlags [] l.items) (flags l.text) := by
  rw [flags, allFlags_text]
  exact {
    mem_iff := fun _ => mem_distinctBy_iff
    once := nodup_map_distinctBy Flag.path _
    inOrder := pairwise_distinctBy Flag.path _ }

-- a path with a blank in it, and one that is written twice
example : flags "CC = gcc -I../a \\\n  -I '../b c' -I\"../a\"\n" =
    [⟨"../a", 1⟩, ⟨"../b c", 2⟩] := by
  decide +kernel

end MakeAtlas.Makefile
