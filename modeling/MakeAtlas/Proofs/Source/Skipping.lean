import MakeAtlas.Proofs.ListSplits
import MakeAtlas.Source.Scrub
import Mathlib.Data.List.TakeWhile

/-!
# What is skipped at the start of a line

A directive is skipped together with the blanks and comments in front of it, all of them on its
line. Where several marks on the line could close a comment in front, each of them is tried.

A directive *stands* at the start of a line if every comment in front of it ends at its nearest
mark. One that is skipped need not stand there: a later mark may have been taken.

## Key results

- `closeComment?_eq_some_iff`: a comment reaches to the nearest mark that closes it
- `reachesMark_of_skipCommented?`: nothing is skipped but a part of the line
- `skipCommented?_of_standing`: a directive that stands at the start of a line is skipped
-/

namespace MakeAtlas.Source

open MakeAtlas.Text

/-! ## Comments -/

/-- The mark that closes a block comment. -/
def closing : List Char := ['*', '/']

private theorem closing_infix_cons_iff {c : Char} {cs : List Char} :
    closing <:+: c :: cs ↔ (c = '*' ∧ cs.head? = some '/') ∨ closing <:+: cs :=
  pair_infix_cons_iff

/-- A comment reaches to the first mark that closes it. -/
theorem closeComment?_eq_some_iff {cs body behind : List Char} :
    closeComment? cs = some (body, behind) ↔
      cs = body ++ '*' :: '/' :: behind ∧ ¬ closing <:+: body := by
  fun_induction closeComment? cs generalizing body with
  | case1 => simp
  | case2 rest =>
    constructor
    · rintro ⟨⟩
      exact ⟨rfl, by decide⟩
    · rintro ⟨hcs, hbody⟩
      -- any text in front of the mark would begin with one
      cases body with
      | nil =>
        cases hcs
        rfl
      | cons c body =>
        rw [closing_infix_cons_iff, not_or] at hbody
        cases body with
        | nil => cases hcs
        | cons d body =>
          cases hcs
          exact absurd ⟨rfl, rfl⟩ hbody.1
  | case3 c rest hopen ih =>
    simp only [Option.map_eq_some_iff, Prod.exists, Prod.mk.injEq]
    constructor
    · rintro ⟨inner, behind, hinner, rfl, rfl⟩
      obtain ⟨hrest, hnone⟩ := ih.1 hinner
      refine ⟨by rw [hrest]; rfl, ?_⟩
      rw [closing_infix_cons_iff, not_or]
      refine ⟨?_, hnone⟩
      rintro ⟨hc, hhead⟩
      obtain ⟨inner', rfl⟩ := List.head?_eq_some_iff.1 hhead
      exact hopen _ hc hrest
    · rintro ⟨hcs, hbody⟩
      cases body with
      | nil =>
        cases hcs
        exact absurd rfl (hopen _ rfl)
      | cons d body =>
        cases hcs
        rw [closing_infix_cons_iff, not_or] at hbody
        exact ⟨body, behind, ih.2 ⟨rfl, hbody.2⟩, rfl, rfl⟩

/-- A comment that is closed ends there whatever is behind it. -/
theorem closeComment?_append {cs body behind : List Char}
    (h : closeComment? cs = some (body, behind)) (more : List Char) :
    closeComment? (cs ++ more) = some (body, behind ++ more) := by
  obtain ⟨rfl, hopen⟩ := closeComment?_eq_some_iff.1 h
  exact closeComment?_eq_some_iff.2 ⟨by simp, hopen⟩

/-- A closed comment becomes one space. -/
theorem spaceComments_of_closed {cs body behind : List Char}
    (h : closeComment? cs = some (body, behind)) :
    spaceComments ('/' :: '*' :: cs) = ' ' :: spaceComments behind := by
  rw [spaceComments]
  split
  · next h' =>
    cases h.symm.trans h'
    rfl
  · next h' => cases h.symm.trans h'

/-- The mark that would open a comment stays if nothing closes it. -/
theorem spaceComments_of_open {cs : List Char} (h : closeComment? cs = none) :
    spaceComments ('/' :: '*' :: cs) = '/' :: spaceComments ('*' :: cs) := by
  rw [spaceComments]
  split
  · next h' => cases h.symm.trans h'
  · rfl

/-- A character that opens no comment stays. -/
theorem spaceComments_cons {c : Char} {cs : List Char} (h : c = '/' → cs.head? ≠ some '*') :
    spaceComments (c :: cs) = c :: spaceComments cs := by
  rw [spaceComments.eq_3]
  rintro body hc rfl
  exact h hc rfl

/-! ## Parts of a line -/

/-- A text is left when a part of the first line of another one is taken away. -/
def ReachesInLine (cs behind : List Char) : Prop :=
  ∃ taken, cs = taken ++ behind ∧ '\n' ∉ taken

namespace ReachesInLine

variable {cs ds behind : List Char}

theorem refl (cs : List Char) : ReachesInLine cs cs :=
  ⟨[], rfl, List.not_mem_nil⟩

theorem trans (h : ReachesInLine cs ds) (h' : ReachesInLine ds behind) :
    ReachesInLine cs behind := by
  obtain ⟨first, rfl, hfirst⟩ := h
  obtain ⟨second, rfl, hsecond⟩ := h'
  exact ⟨first ++ second, (List.append_assoc _ _ _).symm, by simp [hfirst, hsecond]⟩

theorem cons {c : Char} (hc : c ≠ '\n') (h : ReachesInLine cs behind) :
    ReachesInLine (c :: cs) behind := by
  obtain ⟨taken, rfl, htaken⟩ := h
  exact ⟨c :: taken, rfl, by simp [htaken, hc.symm]⟩

theorem not_mem (h : ReachesInLine cs behind) (hline : '\n' ∉ cs) : '\n' ∉ behind := by
  obtain ⟨taken, rfl, -⟩ := h
  exact fun hmem => hline (List.mem_append_right _ hmem)

end ReachesInLine

/-- A text is left when a part of the first line of another one is taken away, and this part ends
    with a mark that closes a header name. -/
def ReachesMark (cs behind : List Char) : Prop :=
  ∃ mark, (mark = '"' ∨ mark = '>') ∧ ReachesInLine cs (mark :: behind)

theorem ReachesMark.reachesInLine {cs behind : List Char} (h : ReachesMark cs behind) :
    ReachesInLine cs behind := by
  obtain ⟨mark, hmark, hreaches⟩ := h
  have hline : mark ≠ '\n' := by
    rcases hmark with rfl | rfl <;> decide
  exact hreaches.trans (.cons hline (.refl behind))

section

variable {cs behind : List Char}

theorem reachesInLine_skipInline (cs : List Char) : ReachesInLine cs (skipInline cs) := by
  refine ⟨cs.takeWhile isInlineBlank, List.takeWhile_append_dropWhile.symm, fun hmem => ?_⟩
  have hblank := List.mem_takeWhile_imp hmem
  exact absurd hblank (by decide)

theorem reachesInLine_of_after? {start : List Char} (h : after? start cs = some behind)
    (hstart : '\n' ∉ start) : ReachesInLine cs behind :=
  ⟨start, after?_eq_some_iff.1 h, hstart⟩

theorem reachesMark_of_skipHeaderName? (h : skipHeaderName? cs = some behind) :
    ReachesMark cs behind := by
  have hname : ∀ {opening mark : Char} {rest : List Char}, opening ≠ '\n' →
      mark = '"' ∨ mark = '>' → (cutInLine? mark rest).map Prod.snd = some behind →
      ReachesMark (opening :: rest) behind := by
    intro opening mark rest hopening hmark hcut
    obtain ⟨⟨name, more⟩, hname, rfl⟩ := Option.map_eq_some_iff.1 hcut
    obtain ⟨rfl, -, hname⟩ := eq_of_cutInLine? hname
    exact ⟨mark, hmark, .cons hopening ⟨name, rfl, hname⟩⟩
  unfold skipHeaderName? at h
  split at h
  · exact hname (by decide) (Or.inl rfl) h
  · exact hname (by decide) (Or.inr rfl) h
  · cases h

theorem reachesMark_of_skipDirective? (h : skipDirective? cs = some behind) :
    ReachesMark cs behind := by
  simp only [skipDirective?, Option.bind_eq_bind] at h
  obtain ⟨first, hfirst, h⟩ := Option.bind_eq_some_iff.1 h
  obtain ⟨second, hsecond, h⟩ := Option.bind_eq_some_iff.1 h
  obtain ⟨mark, hmark, hname⟩ := reachesMark_of_skipHeaderName? h
  exact ⟨mark, hmark, (reachesInLine_of_after? hfirst (by decide)).trans <|
    (reachesInLine_skipInline first).trans <|
    (reachesInLine_of_after? hsecond (by decide)).trans <|
    (reachesInLine_skipInline second).trans hname⟩

theorem reachesInLine_of_mem_inlineClosings (h : behind ∈ inlineClosings cs) :
    ReachesInLine cs behind := by
  fun_induction inlineClosings cs with
  | case1 => cases h
  | case2 => cases h
  | case3 rest ih =>
    rcases List.mem_cons.1 h with rfl | h
    · exact .cons (by decide) (.cons (by decide) (.refl _))
    · exact .cons (by decide) (ih h)
  | case4 c rest hc _ ih => exact .cons (fun h => hc h) (ih h)

end

/-! ## Directives -/

/-- A directive is skipped behind the first of the closing marks behind which one is. -/
theorem skipCommented?_eq (cs : List Char) :
    skipCommented? cs =
      match after? ['/', '*'] (skipInline cs) with
      | none => skipDirective? (skipInline cs)
      | some body => (inlineClosings body).findSome? skipCommented? := by
  have hattach : ∀ closings : List (List Char),
      closings.attach.findSome? (fun c => skipCommented? c.1) =
        closings.findSome? skipCommented? := by
    intro closings
    calc closings.attach.findSome? (fun c => skipCommented? c.1)
        = (closings.attach.map Subtype.val).findSome? skipCommented? := by
          rw [List.findSome?_map]
          rfl
      _ = closings.findSome? skipCommented? := by rw [List.attach_map_subtype_val]
  unfold skipCommented?
  split
  · next h => simp only [h]
  · next body h =>
    simp only [h]
    exact hattach (inlineClosings body)

/-- No part of another line is skipped together with a directive, and nothing behind its header
    name. -/
theorem reachesMark_of_skipCommented? {cs behind : List Char}
    (h : skipCommented? cs = some behind) : ReachesMark cs behind := by
  -- Strong induction on the length: a comment is passed over before each further call
  induction hn : cs.length using Nat.strongRecOn generalizing cs with
  | ind n ih =>
    have hreaches : ∀ rest, ReachesInLine (skipInline cs) rest → ReachesMark rest behind →
        ReachesMark cs behind := by
      rintro rest hrest ⟨mark, hmark, hbehind⟩
      exact ⟨mark, hmark, (reachesInLine_skipInline cs).trans (hrest.trans hbehind)⟩
    rw [skipCommented?_eq] at h
    split at h
    · exact hreaches _ (.refl _) (reachesMark_of_skipDirective? h)
    · next body hbody =>
      obtain ⟨rest, hmem, hrest⟩ := List.exists_of_findSome?_eq_some h
      have hshorter : rest.length < n := by
        have h1 := length_lt_of_mem_inlineClosings hmem
        have h2 := length_lt_of_after? hbody (by simp)
        have h3 := length_skipInline_le cs
        omega
      exact hreaches rest ((reachesInLine_of_after? hbody (by decide)).trans
        (reachesInLine_of_mem_inlineClosings hmem)) (ih _ hshorter hrest rfl)

/-- A character that neither ends the line nor begins a closing mark is passed over. -/
private theorem inlineClosings_cons {c : Char} {cs : List Char} (hc : c ≠ '\n')
    (hmark : ¬ (c = '*' ∧ cs.head? = some '/')) : inlineClosings (c :: cs) = inlineClosings cs := by
  rw [inlineClosings.eq_4 c cs hc]
  rintro rest rfl rfl
  exact hmark ⟨rfl, rfl⟩

/-- The marks that could close a comment on its line, if the first one there ends its body. -/
theorem inlineClosings_body {body : List Char} (hnone : ¬ closing <:+: body)
    (hline : '\n' ∉ body) (behind : List Char) :
    inlineClosings (body ++ '*' :: '/' :: behind) = behind :: inlineClosings ('/' :: behind) := by
  induction body with
  | nil => rfl
  | cons c body ih =>
    rw [closing_infix_cons_iff, not_or] at hnone
    rw [List.mem_cons, not_or] at hline
    rw [List.cons_append, inlineClosings_cons (Ne.symm hline.1), ih hnone.2 hline.2]
    rintro ⟨hc, hhead⟩
    cases body with
    | nil => cases hhead
    | cons d body => exact hnone.1 ⟨hc, hhead⟩

/-- No mark closes a comment on its line if the line ends in its body. -/
theorem inlineClosings_of_mem {body : List Char} (hnone : ¬ closing <:+: body)
    (hline : '\n' ∈ body) (behind : List Char) : inlineClosings (body ++ behind) = [] := by
  induction body with
  | nil => cases hline
  | cons c body ih =>
    by_cases hc : c = '\n'
    · -- the line ends here, and nothing is tried behind it
      rw [hc]
      rfl
    · rw [closing_infix_cons_iff, not_or] at hnone
      have hmem : '\n' ∈ body := (List.mem_cons.1 hline).resolve_left (Ne.symm hc)
      rw [List.cons_append, inlineClosings_cons hc, ih hnone.2 hmem]
      rintro ⟨hstar, hhead⟩
      cases body with
      | nil => cases hmem
      | cons d body => exact hnone.1 ⟨hstar, hhead⟩

/-! ## Directives that stand at the start of a line -/

/-- What follows the comment at the front of a text, if the nearest mark closes it on its line. -/
def closeInline? (cs : List Char) : Option (List Char) :=
  (closeComment? cs).bind fun (body, behind) => if body.contains '\n' then none else some behind

theorem closeInline?_eq_some_iff {cs behind : List Char} :
    closeInline? cs = some behind ↔
      ∃ body, closeComment? cs = some (body, behind) ∧ '\n' ∉ body := by
  rw [closeInline?, Option.bind_eq_some_iff]
  constructor
  · rintro ⟨⟨body, rest⟩, hclose, h⟩
    dsimp only at h
    split at h
    · cases h
    · next hline =>
      cases h
      exact ⟨body, hclose, by simpa using hline⟩
  · rintro ⟨body, hclose, hline⟩
    exact ⟨(body, behind), hclose, by simp [hline]⟩

theorem length_closeInline?_lt {cs behind : List Char} (h : closeInline? cs = some behind) :
    behind.length < cs.length := by
  obtain ⟨body, hclose, -⟩ := closeInline?_eq_some_iff.1 h
  exact length_closeComment?_lt hclose

/-- A comment closed on its line takes text away. -/
theorem length_lt_of_closeInline? {cs body behind : List Char}
    (h : after? ['/', '*'] (skipInline cs) = some body) (hclose : closeInline? body = some behind) :
    behind.length < cs.length := by
  have h1 := length_closeInline?_lt hclose
  have h2 := length_lt_of_after? h (List.cons_ne_nil _ _)
  have h3 := length_skipInline_le cs
  omega

/-- Skips a directive that stands at the start of a line, with the blanks and the comments closed on
the line that are in front of it. -/
def skipStanding? (cs : List Char) : Option (List Char) :=
  match h : after? ['/', '*'] (skipInline cs) with
  | none => skipDirective? (skipInline cs)
  | some body =>
    match hclose : closeInline? body with
    | none => none
    | some behind =>
      have := length_lt_of_closeInline? h hclose
      skipStanding? behind
termination_by cs.length

/-- A directive that stands at the start of a line is looked for behind each comment in front. -/
theorem skipStanding?_eq (cs : List Char) :
    skipStanding? cs =
      match after? ['/', '*'] (skipInline cs) with
      | none => skipDirective? (skipInline cs)
      | some body => (closeInline? body).bind skipStanding? := by
  rw [skipStanding?]
  split
  · next h => simp only [h]
  · next body h =>
    simp only [h]
    split
    · next hclose => rw [hclose]; rfl
    · next hclose => rw [hclose]; rfl

/-- A directive that stands at the start of a line is skipped. -/
theorem skipCommented?_of_standing {cs behind : List Char} (h : skipStanding? cs = some behind) :
    skipCommented? cs = some behind := by
  fun_induction skipStanding? cs with
  | case1 cs hcomment => rw [skipCommented?_eq, hcomment, ← h]
  | case2 => cases h
  | case3 cs body hcomment rest hclose _ ih =>
    obtain ⟨inner, hinner, hline⟩ := closeInline?_eq_some_iff.1 hclose
    obtain ⟨rfl, hnone⟩ := closeComment?_eq_some_iff.1 hinner
    -- the nearest closing mark is the first one that is tried
    rw [skipCommented?_eq, hcomment]
    dsimp only
    rw [inlineClosings_body hnone hline, List.findSome?_cons, ih h]

theorem length_skipStanding?_lt {cs behind : List Char} (h : skipStanding? cs = some behind) :
    behind.length < cs.length :=
  length_skipCommented?_lt (skipCommented?_of_standing h)

/-- A line is taken for a directive although none stands at its start: behind a comment, and what
follows it, a further mark on the line could close the comment, too. -/
def IsMistaken (cs : List Char) : Prop :=
  (skipCommented? cs).isSome = true ∧ skipStanding? cs = none

instance (cs : List Char) : Decidable (IsMistaken cs) :=
  inferInstanceAs (Decidable (_ ∧ _))

/-- Where no line is mistaken, the directives that are skipped are those that stand there. -/
theorem skipStanding?_eq_skipCommented? {cs : List Char} (h : ¬ IsMistaken cs) :
    skipStanding? cs = skipCommented? cs := by
  cases hstanding : skipStanding? cs with
  | some behind => exact (skipCommented?_of_standing hstanding).symm
  | none =>
    cases hskipped : skipCommented? cs with
    | none => rfl
    | some behind => exact absurd ⟨by rw [hskipped]; rfl, hstanding⟩ h

end MakeAtlas.Source
