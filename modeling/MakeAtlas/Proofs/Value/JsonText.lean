import MakeAtlas.Proofs.Value.DocumentStart
import MakeAtlas.Text.Lines
import Mathlib.Data.List.TakeWhile

/-!
# Texts of documents in JSON

Carriage returns may stand between the tokens of a document, but in none of them: a document is read
alike however its lines end. A document that is a table starts with a brace.

## Key results

- `Json.readsAlike_nextToken?`: a token is read alike however the lines behind it end
- `Json.read_unifyNewlines`: so is a document
- `Json.exists_brace_of_read`: how the document of a table starts
-/

namespace MakeAtlas

open MakeAtlas.Text

namespace Text

variable {c : Char} {cs : List Char}

theorem unifyNewlines_cons (hc : c ≠ '\r') : unifyNewlines (c :: cs) = c :: unifyNewlines cs := by
  rw [unifyNewlines]
  · rintro rest rfl
    exact absurd rfl hc
  · exact hc

/-- A carriage return becomes a line feed. -/
theorem exists_unifyNewlines_return (cs : List Char) :
    ∃ rest, unifyNewlines ('\r' :: cs) = '\n' :: rest := by
  cases cs with
  | nil => exact ⟨_, rfl⟩
  | cons d cs =>
    by_cases hd : d = '\n'
    · rw [hd]
      exact ⟨_, rfl⟩
    · exact ⟨_, by rw [unifyNewlines]; simpa using hd⟩

theorem unifyNewlines_append {front : List Char} (h : '\r' ∉ front) :
    unifyNewlines (front ++ cs) = front ++ unifyNewlines cs := by
  induction front with
  | nil => rfl
  | cons c front ih =>
    rw [List.mem_cons, not_or] at h
    rw [List.cons_append, unifyNewlines_cons (Ne.symm h.1), ih h.2, List.cons_append]

/-- Characters of a class without line feeds and carriage returns are taken away alike. -/
theorem takeWhile_unifyNewlines {p : Char → Bool} (hreturn : p '\r' = false)
    (hfeed : p '\n' = false) (cs : List Char) :
    (unifyNewlines cs).takeWhile p = cs.takeWhile p ∧
      (unifyNewlines cs).dropWhile p = unifyNewlines (cs.dropWhile p) := by
  induction cs with
  | nil => exact ⟨rfl, rfl⟩
  | cons c cs ih =>
    by_cases hc : c = '\r'
    · obtain ⟨rest, hrest⟩ := exists_unifyNewlines_return cs
      simp [hc, hrest, hreturn, hfeed]
    · rw [unifyNewlines_cons hc]
      cases hp : p c <;> simp [hp, ih, unifyNewlines_cons hc]

/-- What follows a given beginning. -/
theorem after?_unifyNewlines {start : List Char} (h : ∀ c ∈ start, c ≠ '\r' ∧ c ≠ '\n')
    (cs : List Char) : after? start (unifyNewlines cs) = (after? start cs).map unifyNewlines := by
  induction start generalizing cs with
  | nil => rfl
  | cons p start ih =>
    obtain ⟨hp, hstart⟩ := List.forall_mem_cons.1 h
    cases cs with
    | nil => rfl
    | cons c cs =>
      by_cases hc : c = '\r'
      · obtain ⟨rest, hrest⟩ := exists_unifyNewlines_return cs
        simp [hc, hrest, after?, hp]
      · rw [unifyNewlines_cons hc]
        by_cases hpc : p = c <;> simp [after?, hpc, ih hstart]

/-- Something is read from the front of a text alike however the lines of the text end. -/
def ReadsAlike {α : Type} (read : List Char → Option (α × List Char)) : Prop :=
  ∀ cs, read (unifyNewlines cs) = (read cs).map (Prod.map id unifyNewlines)

/-- So it is if nothing is read from the end of a line. -/
theorem ReadsAlike.of_cons {α : Type} {read : List Char → Option (α × List Char)}
    (hnil : read [] = none) (hreturn : ∀ cs, read ('\r' :: cs) = none)
    (hfeed : ∀ cs, read ('\n' :: cs) = none)
    (hcons : ∀ c cs, c ≠ '\r' →
      read (c :: unifyNewlines cs) = (read (c :: cs)).map (Prod.map id unifyNewlines)) :
    ReadsAlike read := by
  intro cs
  cases cs with
  | nil => rw [unifyNewlines, hnil, Option.map_none]
  | cons c cs =>
    by_cases hc : c = '\r'
    · obtain ⟨rest, hrest⟩ := exists_unifyNewlines_return cs
      rw [hc, hrest, hreturn, hfeed, Option.map_none]
    · rw [unifyNewlines_cons hc, hcons c cs hc]

theorem readsAlike_hexNumberFrom? (high width : Nat) : ReadsAlike (hexNumberFrom? high width) := by
  induction width generalizing high with
  | zero => exact fun _ => rfl
  | succ width ih =>
    refine .of_cons rfl (fun _ => rfl) (fun _ => rfl) fun c cs _ => ?_
    cases hdigit : hexValue? c with
    | none => simp [hexNumberFrom?, hdigit]
    | some digit => simpa [hexNumberFrom?, hdigit] using ih _ cs

end Text

/-! ## Tokens -/

namespace Decimal

private theorem digits_unifyNewlines (cs : List Char) :
    (unifyNewlines cs).takeWhile Char.isDigit = cs.takeWhile Char.isDigit ∧
      (unifyNewlines cs).dropWhile Char.isDigit = unifyNewlines (cs.dropWhile Char.isDigit) :=
  takeWhile_unifyNewlines (by decide) (by decide) cs

/-- Whether there is a minus at the front of a text, and what follows the sign. -/
private def signPart (cs : List Char) : Bool × List Char :=
  match cs with
  | '-' :: rest => (true, rest)
  | '+' :: rest => (false, rest)
  | rest => (false, rest)

private theorem exponent?_cons (e : Char) (cs : List Char) :
    exponent? (e :: cs) =
      if e = 'e' || e = 'E' then
        match (signPart cs).2.takeWhile Char.isDigit with
        | [] => none
        | digits =>
          some (if (signPart cs).1 then -(digitsValue digits : Int) else digitsValue digits,
            (signPart cs).2.dropWhile Char.isDigit)
      else none :=
  rfl

private theorem signPart_cons {c : Char} (hminus : c ≠ '-') (hplus : c ≠ '+') (cs : List Char) :
    signPart (c :: cs) = (false, c :: cs) := by
  unfold signPart
  split
  · next h =>
    cases h
    exact absurd rfl hminus
  · next h =>
    cases h
    exact absurd rfl hplus
  · rfl

private theorem signPart_unifyNewlines (cs : List Char) :
    signPart (unifyNewlines cs) = Prod.map id unifyNewlines (signPart cs) := by
  cases cs with
  | nil => rfl
  | cons c cs =>
    by_cases hc : c = '\r'
    · obtain ⟨rest, hrest⟩ := exists_unifyNewlines_return cs
      rw [hc, signPart_cons (by decide) (by decide), hrest, signPart_cons (by decide) (by decide),
        ← hrest]
      rfl
    · rw [unifyNewlines_cons hc]
      by_cases hminus : c = '-'
      · rw [hminus]
        rfl
      · by_cases hplus : c = '+'
        · rw [hplus]
          rfl
        · rw [signPart_cons hminus hplus, signPart_cons hminus hplus, ← unifyNewlines_cons hc]
          rfl

theorem readsAlike_exponent? : ReadsAlike exponent? := by
  refine .of_cons rfl (fun _ => rfl) (fun _ => rfl) fun e cs _ => ?_
  rw [exponent?_cons, exponent?_cons, signPart_unifyNewlines, Prod.map_snd, Prod.map_fst,
    (digits_unifyNewlines _).1, (digits_unifyNewlines _).2]
  split
  · cases (signPart cs).2.takeWhile Char.isDigit <;> rfl
  · rfl

theorem length_exponent?_le {cs behind : List Char} {n : Int}
    (h : exponent? cs = some (n, behind)) : behind.length ≤ cs.length := by
  have hsign : ∀ cs, (signPart cs).2.length ≤ cs.length := by
    intro cs
    unfold signPart
    split
    · exact Nat.le_succ _
    · exact Nat.le_succ _
    · exact Nat.le_refl _
  cases cs with
  | nil => cases h
  | cons e cs =>
    rw [exponent?_cons] at h
    split at h
    · split at h
      · cases h
      · cases h
        exact Nat.le_succ_of_le (Nat.le_trans (List.dropWhile_suffix _).length_le (hsign cs))
    · cases h

end Decimal

namespace Json

theorem readsAlike_lowSurrogate? : ReadsAlike lowSurrogate? := by
  intro cs
  have hafter : ∀ cs, lowSurrogate? cs = (after? ['\\', 'u'] cs).bind fun rest =>
      (hexNumber? 4 rest).filter fun found => 0xDC00 ≤ found.1 && found.1 < 0xE000 := by
    intro cs
    unfold lowSurrogate?
    split
    · rfl
    · next hno =>
      cases h : after? ['\\', 'u'] cs with
      | none => rfl
      | some rest => exact absurd (after?_eq_some_iff.1 h) (hno rest)
  rw [hafter, hafter, after?_unifyNewlines (by simp)]
  cases after? ['\\', 'u'] cs with
  | none => rfl
  | some rest =>
    have hnumber := readsAlike_hexNumberFrom? 0 4 rest
    simp only [Option.map_some, Option.bind_some, hexNumber?, hnumber, Option.filter_map]
    rfl

/-- The character of a numeric escape, given the second half that may follow it. -/
private def escaped (pair : Nat → Char) (code : Nat) (rest : List Char)
    (low? : Option (Nat × List Char)) : Char × List Char :=
  if 0xD800 ≤ code && code < 0xDC00 then
    match low? with
    | some (low, behind) => (pair low, behind)
    | none => ('\uFFFD', rest)
  else if 0xDC00 ≤ code && code < 0xE000 then ('\uFFFD', rest)
  else (Char.ofNat code, rest)

private theorem unicodeEscape?_eq (cs : List Char) :
    unicodeEscape? cs =
      (hexNumber? 4 cs).map fun (code, rest) =>
        escaped (fun low => Char.ofNat (0x10000 + (code - 0xD800) * 0x400 + (low - 0xDC00)))
          code rest (lowSurrogate? rest) :=
  rfl

private theorem escaped_unifyNewlines (pair : Nat → Char) (code : Nat) (rest : List Char)
    (low? : Option (Nat × List Char)) :
    escaped pair code (unifyNewlines rest) (low?.map (Prod.map id unifyNewlines)) =
      Prod.map id unifyNewlines (escaped pair code rest low?) := by
  unfold escaped
  rw [apply_ite (Prod.map id unifyNewlines), apply_ite (Prod.map id unifyNewlines)]
  cases low? <;> rfl

theorem readsAlike_unicodeEscape? : ReadsAlike unicodeEscape? := by
  intro cs
  have hnumber : hexNumber? 4 (unifyNewlines cs) =
      (hexNumber? 4 cs).map (Prod.map id unifyNewlines) := readsAlike_hexNumberFrom? 0 4 cs
  rw [unicodeEscape?_eq, unicodeEscape?_eq, hnumber, Option.map_map, Option.map_map]
  congr 1
  funext ⟨code, rest⟩
  simp only [Function.comp_apply, Prod.map_apply, id_eq, readsAlike_lowSurrogate? rest,
    escaped_unifyNewlines]

/-- No character of a string ends a line. -/
theorem readsAlike_stringChar? : ReadsAlike stringChar? := by
  refine .of_cons rfl (fun _ => rfl) (fun _ => rfl) fun c cs _ => ?_
  by_cases hquote : c = '"'
  · rw [hquote]
    rfl
  · by_cases hescape : c = '\\'
    · rw [hescape]
      -- no escape is written with a carriage return or a line feed
      cases cs with
      | nil => rfl
      | cons d cs =>
        by_cases hd : d = '\r'
        · obtain ⟨rest, hrest⟩ := exists_unifyNewlines_return cs
          rw [hd, hrest]
          rfl
        · rw [unifyNewlines_cons hd]
          by_cases hu : d = 'u'
          · rw [hu]
            have hescape := readsAlike_unicodeEscape? cs
            simp only [stringChar?, hescape, Option.map_map]
            rfl
          · have hletter : ∀ cs, stringChar? ('\\' :: d :: cs) =
                (simpleEscape? d).map fun c => (some c, cs) := by
              intro cs
              rw [stringChar?]
              exact hu
            simp only [hletter, Option.map_map]
            rfl
    · have hplain : ∀ cs, stringChar? (c :: cs) =
          if c.toNat < 32 || c = '\\' then none else some (some c, cs) := by
        intro cs
        rw [stringChar?]
        · exact hquote
        · exact fun _ h => absurd h hescape
        · exact fun _ _ h => absurd h hescape
      rw [hplain, hplain]
      split <;> rfl

private theorem stringBody?_eq (cs : List Char) :
    stringBody? cs = (stringChar? cs).bind fun (c, rest) =>
      match c with
      | none => some ([], rest)
      | some c => (stringBody? rest).map fun (body, behind) => (c :: body, behind) := by
  rw [stringBody?]
  split
  all_goals next h => simp only [h, Option.bind_some, Option.bind_none]

theorem readsAlike_stringBody? : ReadsAlike stringBody? := by
  intro cs
  have hchar := readsAlike_stringChar? cs
  fun_induction stringBody? cs with
  | case1 cs h => rw [stringBody?_eq, hchar, h]; rfl
  | case2 cs rest h => rw [stringBody?_eq, hchar, h]; rfl
  | case3 cs c rest h _ ih =>
    rw [stringBody?_eq, hchar, h]
    simp only [Option.map_some, Option.bind_some, Prod.map_apply, ih (readsAlike_stringChar? rest),
      Option.map_map]
    rfl

private theorem wholePart_cons {c : Char} (hc : c ≠ '0') (cs : List Char) :
    wholePart (c :: cs) = (c :: cs).takeWhile Char.isDigit := by
  unfold wholePart
  split
  · next h =>
    cases h
    exact absurd rfl hc
  · rfl

private theorem wholePart_prefix (cs : List Char) :
    wholePart cs <+: cs ∧ '\r' ∉ wholePart cs := by
  unfold wholePart
  split
  · exact ⟨⟨_, rfl⟩, by decide⟩
  · refine ⟨List.takeWhile_prefix _, fun hmem => ?_⟩
    have hdigit := List.mem_takeWhile_imp hmem
    exact absurd hdigit (by decide)

theorem wholePart_unifyNewlines (cs : List Char) :
    wholePart (unifyNewlines cs) = wholePart cs ∧
      (unifyNewlines cs).drop (wholePart cs).length =
        unifyNewlines (cs.drop (wholePart cs).length) := by
  constructor
  · cases cs with
    | nil => rfl
    | cons c cs =>
      by_cases hc : c = '\r'
      · obtain ⟨rest, hrest⟩ := exists_unifyNewlines_return cs
        rw [hc, hrest]
        rfl
      · by_cases hzero : c = '0'
        · rw [hzero]
          rfl
        · have hdigits := (Decimal.digits_unifyNewlines (c :: cs)).1
          rw [unifyNewlines_cons hc] at hdigits ⊢
          rw [wholePart_cons hzero, wholePart_cons hzero, hdigits]
  · -- the whole part holds no carriage return, so only what follows it is changed
    obtain ⟨⟨rest, hrest⟩, hreturn⟩ := wholePart_prefix cs
    have hsplit : unifyNewlines cs = wholePart cs ++ unifyNewlines rest := by
      rw [← unifyNewlines_append hreturn, hrest]
    have hdrop : cs.drop (wholePart cs).length = rest := by
      calc cs.drop (wholePart cs).length
          = (wholePart cs ++ rest).drop (wholePart cs).length := by rw [hrest]
        _ = rest := List.drop_left
    rw [hsplit, List.drop_left, hdrop]

theorem fractionPart_unifyNewlines (cs : List Char) :
    fractionPart (unifyNewlines cs) = Prod.map id unifyNewlines (fractionPart cs) := by
  have hnone : ∀ {c cs}, c ≠ '.' → fractionPart (c :: cs) = (none, c :: cs) := by
    intro c cs hc
    unfold fractionPart
    split
    · next h =>
      cases h
      exact absurd rfl hc
    · rfl
  cases cs with
  | nil => rfl
  | cons c cs =>
    by_cases hc : c = '\r'
    · obtain ⟨rest, hrest⟩ := exists_unifyNewlines_return cs
      rw [hc, hnone (by decide), hrest, hnone (by decide), ← hrest]
      rfl
    · rw [unifyNewlines_cons hc]
      by_cases hpoint : c = '.'
      · obtain ⟨htake, hdrop⟩ := Decimal.digits_unifyNewlines cs
        rw [hpoint]
        simp only [fractionPart, htake, hdrop]
        cases cs.takeWhile Char.isDigit with
        | nil => rw [← unifyNewlines_cons (by decide)]; rfl
        | cons digit digits => rfl
      · rw [hnone hpoint, hnone hpoint, ← unifyNewlines_cons hc]
        rfl

theorem readsAlike_number? (negative : Bool) : ReadsAlike (number? negative) := by
  intro cs
  obtain ⟨hwhole, hrest⟩ := wholePart_unifyNewlines cs
  unfold number?
  rw [hwhole]
  cases hdigits : wholePart cs with
  | nil => rfl
  | cons digit digits =>
    rw [hdigits] at hrest
    simp only [hrest, fractionPart_unifyNewlines, Prod.map_fst, Prod.map_snd, id,
      Decimal.readsAlike_exponent? _]
    generalize fractionPart (cs.drop (digit :: digits).length) = fraction
    cases hexponent : Decimal.exponent? fraction.2 with
    | none =>
      simp only [Option.map_none]
      split
      · split <;> rfl
      · rfl
    | some found =>
      simp only [Option.map_some, Prod.map_fst, Prod.map_snd, id, Option.isNone_some,
        Bool.and_false, Bool.false_eq_true, if_false, Prod.map_apply]

/-- No word ends a line. -/
theorem readsAlike_word? : ReadsAlike word? := by
  intro cs
  have hword : ∀ word ∈ words, ∀ c ∈ word.1.toList, c ≠ '\r' ∧ c ≠ '\n' := by
    simp [words]
  unfold word?
  generalize words = found at hword ⊢
  induction found with
  | nil => rfl
  | cons word found ih =>
    obtain ⟨hfirst, hrest⟩ := List.forall_mem_cons.1 hword
    rw [List.findSome?_cons, List.findSome?_cons, ih hrest]
    simp only [after?_unifyNewlines hfirst]
    cases after? word.1.toList cs <;> rfl

/-- A token is read alike however the lines behind it end. -/
theorem readsAlike_nextToken? {c : Char} (hc : c ≠ '\r') : ReadsAlike (nextToken? c) := by
  intro rest
  have hword : word? (c :: unifyNewlines rest) =
      (word? (c :: rest)).map (Prod.map id unifyNewlines) := by
    rw [← unifyNewlines_cons hc]
    exact readsAlike_word? (c :: rest)
  have hnumber : number? false (c :: unifyNewlines rest) =
      (number? false (c :: rest)).map (Prod.map id unifyNewlines) := by
    rw [← unifyNewlines_cons hc]
    exact readsAlike_number? false (c :: rest)
  unfold nextToken?
  split
  · rfl
  · rfl
  · rfl
  · rfl
  · rfl
  · rfl
  · rw [readsAlike_stringBody? rest, Option.map_map, Option.map_map]
    rfl
  · rw [hword, hnumber, readsAlike_number? true rest]
    cases word? (c :: rest) with
    | some found => rfl
    | none =>
      simp only [Option.map_none]
      split <;> rw [Option.map_map, Option.map_map] <;> rfl

theorem length_fractionPart_le (cs : List Char) : (fractionPart cs).2.length ≤ cs.length := by
  unfold fractionPart
  split
  · split
    · exact Nat.le_refl _
    · exact Nat.le_succ_of_le (List.dropWhile_suffix _).length_le
  · exact Nat.le_refl _

/-- A number takes text away, and it is no table. -/
theorem of_number? {negative : Bool} {cs behind : List Char} {value : Except DocumentError Value}
    (h : number? negative cs = some (value, behind)) :
    behind.length < cs.length ∧ ∀ es, value ≠ .ok (.table es) := by
  unfold number? at h
  split at h
  · cases h
  · next whole hwhole =>
    have hdrop : (cs.drop (wholePart cs).length).length < cs.length := by
      obtain ⟨⟨rest, hrest⟩, -⟩ := wholePart_prefix cs
      have hpos := List.length_pos_iff.2 hwhole
      have hlength := congrArg List.length hrest
      rw [List.length_append] at hlength
      rw [List.length_drop]
      omega
    have hfraction := length_fractionPart_le (cs.drop (wholePart cs).length)
    have hfound : behind.length ≤ (fractionPart (cs.drop (wholePart cs).length)).2.length ∧
        ∀ es, value ≠ .ok (.table es) := by
      cases hexponent : Decimal.exponent? (fractionPart (cs.drop (wholePart cs).length)).2 with
      | none =>
        simp only [hexponent] at h
        split at h
        · split at h <;> cases h <;> exact ⟨Nat.le_refl _, nofun⟩
        · cases h
          exact ⟨Nat.le_refl _, nofun⟩
      | some found =>
        have hlength := Decimal.length_exponent?_le hexponent
        simp only [hexponent] at h
        split at h
        · split at h <;> cases h <;> exact ⟨hlength, nofun⟩
        · cases h
          exact ⟨hlength, nofun⟩
    exact ⟨by omega, hfound.2⟩

/-- A word takes text away, and it is no table. -/
theorem of_word? {cs behind : List Char} {value : Value} (h : word? cs = some (value, behind)) :
    behind.length < cs.length ∧ ∀ es, value ≠ .table es := by
  obtain ⟨word, hword, h⟩ := List.exists_of_findSome?_eq_some h
  obtain ⟨rest, hrest, hbehind⟩ := Option.map_eq_some_iff.1 h
  cases hbehind
  have hwords : ∀ word ∈ words, word.1.toList ≠ [] ∧ ∀ es, word.2 ≠ .table es := by
    simp [words]
  exact ⟨length_lt_of_after? hrest (hwords _ hword).1, (hwords _ hword).2⟩

/-- What opens a table or a list is a token of one character. No token is a table, and none takes
    text away that is not there. -/
theorem of_nextToken? {c : Char} {rest behind : List Char} {token : Token}
    (h : nextToken? c rest = some (token, behind)) :
    behind.length ≤ rest.length ∧ (token = .openTable → c = '\x7b') ∧
      (token = .openList → c = '[') ∧ ∀ es, token ≠ .scalar (.ok (.table es)) := by
  unfold nextToken? at h
  split at h
  iterate 6
    cases h
    exact ⟨Nat.le_refl _, by simp, by simp, by simp⟩
  · obtain ⟨⟨body, more⟩, hbody, hmore⟩ := Option.map_eq_some_iff.1 h
    cases hmore
    exact ⟨Nat.le_of_lt (length_stringBody?_lt hbody), nofun, nofun, nofun⟩
  · split at h
    · next hword =>
      cases h
      obtain ⟨hlength, htable⟩ := of_word? hword
      exact ⟨Nat.le_of_lt_succ hlength, nofun, nofun, by simpa using htable⟩
    · obtain ⟨⟨value, more⟩, hnumber, hmore⟩ := Option.map_eq_some_iff.1 h
      cases hmore
      have hvalue : behind.length ≤ rest.length ∧ ∀ es, value ≠ .ok (.table es) := by
        split at hnumber
        · exact ⟨Nat.le_of_lt (of_number? hnumber).1, (of_number? hnumber).2⟩
        · exact ⟨Nat.le_of_lt_succ (of_number? hnumber).1, (of_number? hnumber).2⟩
      exact ⟨hvalue.1, nofun, nofun, by simpa using hvalue.2⟩

/-! ## Documents -/

theorem dropWhile_isSeparator_unifyNewlines (cs : List Char) :
    (unifyNewlines cs).dropWhile isSeparator = unifyNewlines (cs.dropWhile isSeparator) := by
  fun_induction unifyNewlines cs with
  | case1 => rfl
  | case2 rest ih => exact ih
  | case3 rest _ ih => exact ih
  | case4 c rest _ hc ih =>
    by_cases hsep : isSeparator c = true
    · rw [List.dropWhile_cons_of_pos hsep, List.dropWhile_cons_of_pos hsep, ih]
    · rw [List.dropWhile_cons_of_neg hsep, List.dropWhile_cons_of_neg hsep, unifyNewlines_cons hc]

private theorem readFrom_eq (s : State) (cs : List Char) :
    readFrom s cs =
      match cs.dropWhile isSeparator with
      | [] =>
        match s.expected with
        | .nothing document => .ok document
        | _ => .error .malformed
      | c :: rest =>
        match nextToken? c rest with
        | none => .error .malformed
        | some (token, behind) => (s.step token).bind fun s => readFrom s behind := by
  have hsuffix := (List.dropWhile_suffix (l := cs) isSeparator).length_le
  rw [readFrom]
  cases hrest : cs.dropWhile isSeparator with
  | nil => rfl
  | cons c rest =>
    rw [hrest, List.length_cons] at hsuffix
    dsimp only
    cases htoken : nextToken? c rest with
    | none => rfl
    | some found =>
      obtain ⟨token, behind⟩ := found
      have hless : behind.length < cs.length :=
        Nat.lt_of_le_of_lt (of_nextToken? htoken).1 hsuffix
      dsimp only
      cases hstep : s.step token with
      | error e => rfl
      | ok s => exact if_pos hless

theorem readFrom_unifyNewlines (s : State) (cs : List Char) :
    readFrom s (unifyNewlines cs) = readFrom s cs := by
  -- Strong induction on the length: a token is passed over before each further call
  induction hn : cs.length using Nat.strongRecOn generalizing cs s with
  | ind n ih =>
    have hsuffix := (List.dropWhile_suffix (l := cs) isSeparator).length_le
    rw [readFrom_eq, readFrom_eq s cs, dropWhile_isSeparator_unifyNewlines]
    cases hrest : cs.dropWhile isSeparator with
    | nil => rfl
    | cons c rest =>
      have hc : c ≠ '\r' := by
        have hhead := List.head?_dropWhile_not isSeparator cs
        rw [hrest] at hhead
        rintro rfl
        have hsep : isSeparator '\r' = false := hhead
        exact absurd hsep (by decide)
      rw [unifyNewlines_cons hc]
      dsimp only
      rw [readsAlike_nextToken? hc]
      cases htoken : nextToken? c rest with
      | none => rfl
      | some found =>
        obtain ⟨token, behind⟩ := found
        rw [hrest, List.length_cons] at hsuffix
        have hless := (of_nextToken? htoken).1
        have hbehind : ∀ s, readFrom s (unifyNewlines behind) = readFrom s behind :=
          fun s => ih behind.length (by omega) s behind rfl
        simp only [Option.map_some, Prod.map_apply, id_eq, hbehind]

/-- Nothing is read from what separates tokens. -/
theorem readFrom_append {front : List Char} (h : ∀ c ∈ front, isSeparator c) (s : State)
    (cs : List Char) : readFrom s (front ++ cs) = readFrom s cs := by
  rw [readFrom_eq, readFrom_eq s cs, List.dropWhile_append_of_pos h]

/-- A document is read alike however its lines end. -/
theorem read_unifyNewlines (text : String) :
    read (String.ofList (unifyNewlines text.toList)) = read text := by
  rw [read, read, String.toList_ofList, readFrom_unifyNewlines]

/-! ## Tables -/

/-- A table with nothing in it, however far apart its braces are. -/
theorem read_braces {front : List Char} (h : ∀ c ∈ front, isSeparator c) :
    read (String.ofList ('\x7b' :: (front ++ ['\x7d']))) = .ok (.table []) := by
  rw [read, String.toList_ofList, readFrom_eq]
  show readFrom ⟨[], .keyOrClose⟩ (front ++ ['\x7d']) = _
  rw [readFrom_append h, readFrom_eq]
  show readFrom ⟨[], .nothing (.table [])⟩ [] = _
  rw [readFrom_eq]
  rfl

/-- Nothing may follow a document. -/
private theorem eq_of_readFrom_nothing {document v : Value} {frames : List Frame} {cs : List Char}
    (h : readFrom ⟨frames, .nothing document⟩ cs = .ok v) : v = document := by
  rw [readFrom_eq] at h
  split at h
  · cases h
    rfl
  · split at h
    · cases h
    · cases h

/-- A document that is a table starts with a brace. -/
theorem exists_brace_of_read {text : String} {es : Table Value} (h : read text = .ok (.table es)) :
    ∃ rest, text.toList.dropWhile isSeparator = '\x7b' :: rest := by
  have hbracket : ∀ rest, text.toList.dropWhile isSeparator ≠ '[' :: rest :=
    fun rest hrest => read_ne_table hrest es h
  rw [read, readFrom_eq] at h
  cases hrest : text.toList.dropWhile isSeparator with
  | nil =>
    rw [hrest] at h
    cases h
  | cons c rest =>
    rw [hrest] at h hbracket
    dsimp only at h
    cases htoken : nextToken? c rest with
    | none =>
      rw [htoken] at h
      cases h
    | some found =>
      obtain ⟨token, behind⟩ := found
      rw [htoken] at h
      obtain ⟨-, hopenTable, hopenList, hscalar⟩ := of_nextToken? htoken
      cases token with
      -- no list is read as a table, and no scalar is one
      | openTable => exact ⟨rest, by rw [hopenTable rfl]⟩
      | openList => exact absurd (by rw [hopenList rfl]) (hbracket rest)
      | scalar value =>
        cases value with
        | error e => cases h
        | ok value =>
          have hvalue := eq_of_readFrom_nothing h
          exact absurd (by rw [hvalue]) (hscalar es)
      | closeList => cases h
      | closeTable => cases h
      | comma => cases h
      | colon => cases h

end Json

end MakeAtlas
