import MakeAtlas.Markup.EmojiNames
import MakeAtlas.Text.Blank
import MakeAtlas.Text.Case

/-!
# Emoji called by name

A name between two colons stands for an emoji. Whether it is drawn in colours or as text may be
said behind the name. A name that no emoji has stays as it is, with both of its colons.

* `length_emojiCode?_lt`   a name takes text away
-/

namespace MakeAtlas.Markup

open MakeAtlas.Text

/-- Neighbours of a list, two by two. -/
def inPairs {α : Type} : List α → List (α × α)
  | a :: b :: rest => (a, b) :: inPairs rest
  | _ => []

/-- The emoji by their names. -/
def emojis : List (List Char × List Char) :=
  inPairs (words emojiText.toList)

/-- The emoji with a name, in whatever case the name is written. -/
def emojiNamed? (name : List Char) : Option (List Char) :=
  emojis.lookup (lower name)

/-- The end of a name: the mark for how the emoji is drawn, and what follows the closing colon. -/
def nameEnd? (cs : List Char) : Option (List Char × List Char) :=
  match after? [':'] cs with
  | some behind => some ([], behind)
  | none =>
    match after? "-emoji:".toList cs with
    | some behind => some (['\uFE0F'], behind)
    | none => (after? "-text:".toList cs).map fun behind => (['\uFE0E'], behind)

/-- The name whose opening colon has been read, the mark for how the emoji is drawn, and what
follows the closing colon. No blank stands in a name. -/
def emojiCode? : List Char → Option (List Char × List Char × List Char)
  | [] => none
  | c :: rest =>
    match nameEnd? (c :: rest) with
    | some (mark, behind) => some ([], mark, behind)
    | none =>
      if isBlank c then none
      else (emojiCode? rest).map fun (name, mark, behind) => (c :: name, mark, behind)

theorem length_nameEnd?_lt {cs mark behind : List Char} (h : nameEnd? cs = some (mark, behind)) :
    behind.length < cs.length := by
  unfold nameEnd? at h
  split at h
  · next hcolon =>
    cases h
    exact length_lt_of_after? hcolon (by simp)
  · split at h
    · next hemoji =>
      cases h
      exact length_lt_of_after? hemoji (by simp)
    · obtain ⟨rest, htext, hrest⟩ := Option.map_eq_some_iff.1 h
      cases hrest
      exact length_lt_of_after? htext (by simp)

theorem length_emojiCode?_lt {cs name mark behind : List Char}
    (h : emojiCode? cs = some (name, mark, behind)) : behind.length < cs.length := by
  fun_induction emojiCode? cs generalizing name with
  | case1 => cases h
  | case2 c rest _ _ hend =>
    cases h
    exact length_nameEnd?_lt hend
  | case3 => cases h
  | case4 c rest _ _ ih =>
    obtain ⟨⟨n, m, b⟩, hcode, hb⟩ := Option.map_eq_some_iff.1 h
    cases hb
    exact Nat.lt_succ_of_lt (ih hcode)

/-- What stands for a name, given the mark behind it and the text that names it. -/
def emojiOr (written name mark : List Char) : List Char :=
  match emojiNamed? name with
  | some emoji => emoji ++ mark
  | none => written

/-- A text with its emoji in the place of their names. -/
def withEmoji (cs : List Char) : List Char :=
  match cs with
  | [] => []
  | c :: rest =>
    match h : if c = ':' then emojiCode? rest else none with
    | some (name, mark, behind) =>
      have : behind.length < rest.length + 1 := by
        split at h
        · exact Nat.lt_succ_of_lt (length_emojiCode?_lt h)
        · cases h
      emojiOr ((c :: rest).take (rest.length + 1 - behind.length)) name mark ++ withEmoji behind
    | none => c :: withEmoji rest
termination_by cs.length

end MakeAtlas.Markup
