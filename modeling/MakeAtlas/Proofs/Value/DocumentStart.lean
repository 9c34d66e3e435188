import MakeAtlas.Value.Json.Reader
import MakeAtlas.Value.Toml.Reader

/-!
# How documents start

Which characters can stand at the front of a document, behind its blanks, and what that says about
its value. A document in TOML is always a table and never starts with a brace; one in JSON that
starts with a square bracket is always a list.

## Key results

- `Toml.exists_table_of_readFrom`: the value of a document in TOML
- `Toml.startsStatement_of_readFrom`: how a document in TOML starts
- `Json.exists_list_of_readFrom`: what a square bracket at the front leads to
-/

namespace MakeAtlas

open MakeAtlas.Text

/-- What one class of characters leaves at the front and another, wider one does not take away is
    what that one leaves, too. -/
theorem dropWhile_eq_of_head? {p q : Char → Bool} (hpq : ∀ c, p c = true → q c = true)
    {cs : List Char} (h : ∀ c ∈ (cs.dropWhile p).head?, q c = false) :
    cs.dropWhile q = cs.dropWhile p := by
  induction cs with
  | nil => rfl
  | cons c rest ih =>
    by_cases hc : p c = true
    · rw [List.dropWhile_cons_of_pos hc] at h ⊢
      rw [List.dropWhile_cons_of_pos (hpq c hc), ih h]
    · rw [List.dropWhile_cons_of_neg hc] at h ⊢
      rw [List.dropWhile_cons_of_neg (by simp [h c rfl])]

namespace Toml

/-- The characters that a statement can start with. -/
def startsStatement (c : Char) : Bool :=
  c == '[' || c == '#' || c == '"' || c == '\'' || isBareChar c

/-- A document that is read is a table. -/
theorem exists_table_of_readFrom {draft : Draft} {cs : List Char} {v : Value}
    (h : readFrom draft cs = .ok v) : ∃ es, v = .table es := by
  fun_induction readFrom draft cs with
  | case1 draft =>
    cases h
    exact ⟨_, rfl⟩
  | case2 draft c rest hblank ih => exact ih h
  | case3 => cases h
  | case4 => cases h
  | case5 draft c rest hblank draft' behind hstatement more hmore hless ih => exact ih h
  | case6 => cases h

private theorem startsStatement_of_keyPart? {c : Char} {rest : List Char}
    {found : String × List Char} (h : keyPart? (c :: rest) = some found) :
    startsStatement c = true := by
  unfold keyPart? at h
  split at h
  · next heq =>
    cases heq
    rfl
  · next heq =>
    cases heq
    rfl
  · -- a bare word has a first character
    by_cases hbare : isBareChar c = true
    · simp [startsStatement, hbare]
    · rw [List.takeWhile_cons_of_neg hbare] at h
      cases h

private theorem startsStatement_of_entry {draft : Draft} {c : Char} {rest : List Char}
    {found : Draft × List Char} (h : entry draft (c :: rest) = .ok found) :
    startsStatement c = true := by
  cases hpart : keyPart? (c :: rest) with
  | none =>
    have hkey : key? (c :: rest) = none := by
      rw [key?, hpart]
    rw [entry, hkey] at h
    cases h
  | some found => exact startsStatement_of_keyPart? hpart

private theorem startsStatement_of_statement {draft : Draft} {c : Char} {rest : List Char}
    {found : Draft × List Char} (h : statement draft (c :: rest) = .ok found) :
    startsStatement c = true := by
  unfold statement at h
  split at h
  · next heq =>
    cases heq
    rfl
  · next heq =>
    cases heq
    rfl
  · exact startsStatement_of_entry h

/-- Behind its blanks, a document that is read starts with a statement, or there is nothing. -/
theorem startsStatement_of_readFrom {draft : Draft} {cs : List Char} {v : Value}
    (h : readFrom draft cs = .ok v) :
    ∀ c ∈ (cs.dropWhile isGapBlank).head?, startsStatement c = true := by
  fun_induction readFrom draft cs with
  | case1 draft => simp
  | case2 draft c rest hblank ih =>
    have hgap : isGapBlank c = true := by simpa [isGapBlank] using hblank
    rw [List.dropWhile_cons_of_pos hgap]
    exact ih h
  | case3 => cases h
  | case4 => cases h
  | case5 draft c rest hblank draft' behind hstatement more hmore hless ih =>
    have hgap : ¬ isGapBlank c = true := by simpa [isGapBlank] using hblank
    rw [List.dropWhile_cons_of_neg hgap]
    rintro _ ⟨⟩
    exact startsStatement_of_statement hstatement
  | case6 => cases h

/-- No statement starts with a blank. -/
theorem isBlank_eq_false_of_startsStatement {c : Char} (h : startsStatement c = true) :
    isBlank c = false := by
  simp only [startsStatement, isBareChar, Bool.or_eq_true, beq_iff_eq] at h
  rcases h with (((rfl | rfl) | rfl) | rfl) | ((halphanum | rfl) | rfl)
  case inr.inl.inl => exact isBlank_eq_false_of_isAlphanum halphanum
  all_goals decide

/-- The blanks in front of a document that is read are all the blanks that there are in front. -/
theorem trimLeft_eq_of_readFrom {draft : Draft} {cs : List Char} {v : Value}
    (h : readFrom draft cs = .ok v) : trimLeft cs = cs.dropWhile isGapBlank := by
  refine dropWhile_eq_of_head? (fun c hc => ?_) fun c hc =>
    isBlank_eq_false_of_startsStatement (startsStatement_of_readFrom h c hc)
  simp only [isGapBlank, isInlineBlank, Bool.or_eq_true, beq_iff_eq] at hc
  rcases hc with rfl | rfl | rfl <;> decide

/-- Carriage returns are dropped only where there are some. -/
theorem dropReturns_eq_self {cs : List Char} (h : '\r' ∉ cs) : dropReturns cs = cs := by
  fun_induction dropReturns cs with
  | case1 => rfl
  | case2 rest _ => exact absurd List.mem_cons_self h
  | case3 c rest _ ih => rw [ih fun hmem => h (List.mem_cons_of_mem _ hmem)]

end Toml

namespace Json

/-- The outermost of the open lists and tables is a list, or there is none left, and the document
    is a list. -/
inductive State.WithinList : State → Prop
  | unclosed {frames : List Frame} {items : List Value} {expected : Expected}
      (outermost : frames.getLast? = some (.list items))
      (more : ∀ document, expected ≠ .nothing document) : WithinList ⟨frames, expected⟩
  | closed (items : List Value) : WithinList ⟨[], .nothing (.list items)⟩

section Outermost

variable {frames outer : List Frame} {items : List Value}

/-- What is opened inside leaves the outermost one as it is. -/
private theorem outermost_push (h : frames.getLast? = some (.list items)) (frame : Frame) :
    (frame :: frames).getLast? = some (.list items) := by
  rw [List.getLast?_cons, h]
  rfl

/-- A table that is open is inside something. -/
private theorem outermost_of_table {entries : Table Value} {key : String}
    (h : (Frame.table entries key :: outer).getLast? = some (.list items)) :
    outer.getLast? = some (.list items) := by
  cases outer with
  | nil => cases h
  | cons next outer => rwa [List.getLast?_cons_cons] at h

/-- A value that goes into what is open leaves the outermost one a list. -/
private theorem withinList_complete (h : frames.getLast? = some (.list items)) (value : Value) :
    (State.complete frames value).WithinList := by
  match frames, h with
  | [.list _], _ => exact .unclosed rfl nofun
  | .list _ :: next :: outer, h => exact .unclosed h nofun
  | .table _ _ :: next :: outer, h => exact .unclosed h nofun

/-- So does a list that is closed, unless it is the document. -/
private theorem withinList_complete_list {inner : List Value}
    (h : (Frame.list inner :: outer).getLast? = some (.list items)) (closed : List Value) :
    (State.complete outer (.list closed)).WithinList := by
  cases outer with
  | nil => exact .closed closed
  | cons next outer =>
    rw [List.getLast?_cons_cons] at h
    exact withinList_complete h _

private theorem withinList_scalar (h : frames.getLast? = some (.list items)) {s : State}
    {value : Except DocumentError Value} (hs : value.map (State.complete frames) = .ok s) :
    s.WithinList := by
  cases value with
  | error e => cases hs
  | ok value =>
    cases hs
    exact withinList_complete h value

end Outermost

/-- A token stays within the list, or closes it and the document with it. -/
theorem withinList_step {s s' : State} {token : Token} (h : s.WithinList)
    (hstep : s.step token = .ok s') : s'.WithinList := by
  cases h with
  | closed items => cases hstep
  | @unclosed frames items expected outermost more =>
    dsimp only [State.step] at hstep
    split at hstep
    · exact withinList_scalar outermost hstep
    · exact withinList_scalar outermost hstep
    · cases hstep
      exact .unclosed (outermost_push outermost _) nofun
    · cases hstep
      exact .unclosed (outermost_push outermost _) nofun
    · cases hstep
      exact .unclosed outermost nofun
    · cases hstep
      exact .unclosed outermost nofun
    · -- the closing of a list that has nothing in it
      split at hstep
      · cases hstep
        exact withinList_complete_list outermost _
      · cases hstep
    · cases hstep
      exact .unclosed outermost nofun
    · cases hstep
      exact withinList_complete outermost _
    · cases hstep
      exact .unclosed outermost nofun
    · cases hstep
      exact .unclosed (outermost_push outermost _) nofun
    · -- behind a value: a comma or the end of what is innermost
      split at hstep
      · cases hstep
        exact .unclosed outermost nofun
      · cases hstep
        exact withinList_complete_list outermost _
      · cases hstep
        exact .unclosed (outermost_of_table outermost) nofun
      · cases hstep
        exact withinList_complete (outermost_of_table outermost) _
      · cases hstep
    · cases hstep

/-- Once within a list, what is read is a list. -/
theorem exists_list_of_readFrom {s : State} {cs : List Char} {v : Value} (h : s.WithinList)
    (hread : readFrom s cs = .ok v) : ∃ items, v = .list items := by
  fun_induction readFrom s cs with
  | case1 s cs hnil document hexpected =>
    cases hread
    cases h with
    | unclosed _ more => exact absurd hexpected (more _)
    | closed items => exact ⟨items, (Expected.nothing.inj hexpected).symm⟩
  | case2 => cases hread
  | case3 => cases hread
  | case4 => cases hread
  | case5 s cs c rest hcons token behind htoken s' hstep hless ih =>
    exact ih (withinList_step h hstep) hread
  | case6 => cases hread

/-- A document whose first character, behind the blanks, is a square bracket is no table. -/
theorem read_ne_table {text : String} {rest : List Char}
    (h : text.toList.dropWhile isSeparator = '[' :: rest) (es : Table Value) :
    read text ≠ .ok (.table es) := by
  intro hread
  rw [read, readFrom, h] at hread
  have hlist : (State.mk [Frame.list []] .valueOrClose).WithinList := .unclosed rfl nofun
  have hless : rest.length < text.toList.length := by
    have hsuffix := (List.dropWhile_suffix (l := text.toList) isSeparator).length_le
    rw [h, List.length_cons] at hsuffix
    exact hsuffix
  simp only [nextToken?, State.step, if_pos hless] at hread
  obtain ⟨items, hitems⟩ := exists_list_of_readFrom hlist hread
  cases hitems

end Json

end MakeAtlas
