import MakeAtlas.Makefile.Rule
import MakeAtlas.Proofs.ListSplits
import MakeAtlas.Proofs.Text.LinePlaces
import MakeAtlas.Proofs.Text.Words

/-!
# The prerequisites in a rule's remainder

A rule's remainder lists words up to its first `#` or `;`, whichever mark comes first. The words
that may name a file or a target are the prerequisites. They hold no mark, so that they are read
back from every text that is made of them.

## Key results

- `listing_eq_iff`: the listing reaches to the first mark
- `isPrerequisite_iff`: which words may name a file or a target
- `prerequisites_of_hasWords`: words that may all be named, read from a text that is made of them
- `prerequisites_listed_and_reread`: the prerequisites in a remainder, and in what is made of them
-/

namespace MakeAtlas.Makefile

open MakeAtlas.Text

/-! ## The listing -/

/-- What a rule's remainder lists: all of it up to the first `#` or `;`. -/
def IsListing (rest listed : List Char) : Prop :=
  ∃ behind, rest = listed ++ behind ∧ ('#' ∉ listed ∧ ';' ∉ listed) ∧
    ∀ c ∈ behind.head?, c = '#' ∨ c = ';'

/-- Of two cuts, one behind the other, the first mark decides. -/
theorem listing_eq_takeWhile (rest : List Char) :
    listing rest = rest.takeWhile fun c => c != '#' && c != ';' := by
  rw [listing, before, before, List.takeWhile_takeWhile]
  congr 1
  funext c
  rw [Bool.decide_and, Bool.decide_eq_true, Bool.decide_eq_true, Bool.and_comm]

theorem listing_eq_iff {rest listed : List Char} :
    listing rest = listed ↔ IsListing rest listed := by
  rw [listing_eq_takeWhile]
  constructor
  · rintro rfl
    refine ⟨_, List.takeWhile_append_dropWhile.symm, ⟨fun h => ?_, fun h => ?_⟩, fun c hc => ?_⟩
    · exact absurd (List.mem_takeWhile_imp h) (by decide)
    · exact absurd (List.mem_takeWhile_imp h) (by decide)
    · have hmark := List.head?_dropWhile_not (fun c => c != '#' && c != ';') rest
      rw [hc] at hmark
      simpa [or_iff_not_imp_left] using hmark
  · rintro ⟨behind, rfl, ⟨hcomment, hrecipe⟩, hmark⟩
    refine takeWhile_append_of_head? (fun c hc => ?_) fun c hc => ?_
    · have hne : c ≠ '#' ∧ c ≠ ';' :=
        ⟨fun heq => hcomment (heq ▸ hc), fun heq => hrecipe (heq ▸ hc)⟩
      simpa using hne
    · rcases hmark c hc with rfl | rfl <;> rfl

/-! ## Words that may be named -/

/-- A word may name a file or a target: it is not the order-only bar, refers to no variable, and
begins no absolute path, shell fragment or quotation. -/
structure MayName (word : List Char) : Prop where
  noBar : word ≠ ['|']
  resolved : '$' ∉ word
  start : ∀ c ∈ word.head?, c ≠ '/' ∧ c ≠ '@' ∧ c ≠ '"'

theorem isPrerequisite_iff {word : List Char} : isPrerequisite word = true ↔ MayName word := by
  have hfront : (word != ['|'] && !word.contains '$') = true ↔ word ≠ ['|'] ∧ '$' ∉ word := by
    simp
  unfold isPrerequisite
  rw [Bool.and_eq_true, hfront]
  constructor
  · rintro ⟨⟨hbar, hdollar⟩, hstart⟩
    refine ⟨hbar, hdollar, fun c hc => ?_⟩
    obtain ⟨rest, rfl⟩ := List.head?_eq_some_iff.1 hc
    refine ⟨?_, ?_, ?_⟩ <;> rintro rfl <;> cases hstart
  · intro h
    refine ⟨⟨h.noBar, h.resolved⟩, ?_⟩
    split
    · exact absurd rfl (h.start '/' rfl).1
    · exact absurd rfl (h.start '@' rfl).2.1
    · exact absurd rfl (h.start '"' rfl).2.2
    · rfl

instance : DecidablePred MayName := fun _ => decidable_of_iff _ isPrerequisite_iff

/-! ## Prerequisites -/

/-- Some names are the words that a rule's remainder lists, without those that may not be named. -/
def ListsNames (rest : List Char) (found : List String) : Prop :=
  ∃ listed ws, IsListing rest listed ∧ HasWords listed ws ∧
    found = (ws.filter fun w => MayName w).map String.ofList

theorem prerequisites_eq_iff {rest : List Char} {found : List String} :
    prerequisites rest = found ↔ ListsNames rest found := by
  have hfilter : ∀ ws : List (List Char),
      ws.filter isPrerequisite = ws.filter fun w => MayName w := fun ws =>
    List.filter_congr fun w _ => by rw [Bool.eq_iff_iff, isPrerequisite_iff, decide_eq_true_iff]
  constructor
  · rintro rfl
    refine ⟨listing rest, words (listing rest), listing_eq_iff.1 rfl, hasWords_words _, ?_⟩
    rw [prerequisites, hfilter]
  · rintro ⟨listed, ws, hlisting, hwords, rfl⟩
    rw [prerequisites, listing_eq_iff.2 hlisting, words_eq_iff.2 hwords, hfilter]

/-- A text without marks is all listing. -/
theorem isListing_self {text : List Char} (h : '#' ∉ text ∧ ';' ∉ text) : IsListing text text :=
  ⟨[], (List.append_nil text).symm, h, nofun⟩

/-- Words without marks that may be named are the prerequisites in a text that is made of them. -/
theorem prerequisites_of_hasWords {text : List Char} {ws : List (List Char)} (h : HasWords text ws)
    (listed : ∀ w ∈ ws, '#' ∉ w ∧ ';' ∉ w) (named : ∀ w ∈ ws, MayName w) :
    prerequisites text = ws.map String.ofList := by
  have hmark : ∀ mark, isBlank mark = false → (∀ w ∈ ws, mark ∉ w) → mark ∉ text := by
    intro mark hblank hnone hmem
    rcases h.isBlank_or_mem hmem with hmark | ⟨w, hw, hmark⟩
    · rw [hblank] at hmark
      cases hmark
    · exact hnone w hw hmark
  have hlisting := isListing_self
    ⟨hmark '#' rfl fun w hw => (listed w hw).1, hmark ';' rfl fun w hw => (listed w hw).2⟩
  have hkept : (ws.filter fun w => MayName w) = ws :=
    List.filter_eq_self.2 fun w hw => decide_eq_true (named w hw)
  exact prerequisites_eq_iff.2 ⟨text, ws, hlisting, h, by rw [hkept]⟩

/-- A prerequisite is a word without marks that may be named. -/
theorem isWord_of_mem_prerequisites {rest : List Char} {name : String}
    (h : name ∈ prerequisites rest) :
    IsWord name.toList ∧ ('#' ∉ name.toList ∧ ';' ∉ name.toList) ∧ MayName name.toList := by
  obtain ⟨word, hword, rfl⟩ := List.mem_map.1 h
  obtain ⟨hmem, hnamed⟩ := List.mem_filter.1 hword
  obtain ⟨-, -, ⟨hcomment, hrecipe⟩, -⟩ := listing_eq_iff.1 (rfl : listing rest = listing rest)
  have hpart := (infix_of_mem_words hmem).subset
  rw [String.toList_ofList]
  exact ⟨(hasWords_words _).isWord word hmem, ⟨fun hc => hcomment (hpart hc),
    fun hc => hrecipe (hpart hc)⟩, isPrerequisite_iff.1 hnamed⟩

/-- The prerequisites in a remainder are read back from every text that is made of them. -/
theorem prerequisites_of_hasWords_prerequisites {rest text : List Char}
    (h : HasWords text ((prerequisites rest).map String.toList)) :
    prerequisites text = prerequisites rest := by
  have hread := prerequisites_of_hasWords h
    (List.forall_mem_map.2 fun name hname => (isWord_of_mem_prerequisites hname).2.1)
    (List.forall_mem_map.2 fun name hname => (isWord_of_mem_prerequisites hname).2.2)
  rw [hread, List.map_map]
  exact List.map_id'' (fun _ => String.ofList_toList) _

/-- Of every remainder of a rule, the prerequisites are the words up to the first mark that may be
    named, in their order; they are read back from every text that is made of them with blanks
    around, such as the one with a space between any two. -/
theorem prerequisites_listed_and_reread (rest : List Char) :
    (∀ found, prerequisites rest = found ↔ ListsNames rest found) ∧
      (∀ text, HasWords text ((prerequisites rest).map String.toList) →
        prerequisites text = prerequisites rest) ∧
      prerequisites (String.intercalate " " (prerequisites rest)).toList = prerequisites rest := by
  refine ⟨fun _ => prerequisites_eq_iff, fun _ => prerequisites_of_hasWords_prerequisites, ?_⟩
  apply prerequisites_of_hasWords_prerequisites
  rw [String.toList_intercalate]
  refine hasWords_intercalate (List.forall_mem_map.2 fun name hname => ?_)
  exact (isWord_of_mem_prerequisites hname).1

-- the recipe is cut before the comment is looked for, and no dropped word joins two others
example : prerequisites " a $(X) /abs @cmd \"str b | ../c; echo # d".toList =
    ["a", "b", "../c"] := by
  decide +kernel

end MakeAtlas.Makefile
