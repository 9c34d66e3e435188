import MakeAtlas.Evidence.Listing

/-!
# Dependency listings read back

A compiler writes a listed path with a backslash before each space, tab and `#`, and with every
dollar doubled; all other characters, colons among them, stand for themselves. Between the paths
stand blanks and continued line ends, in any mix. What is written like this is read back path by
path: joining the lines leaves the paths alone, and no path runs into what follows it.

## Key results

- `joinContinued_mentions`: joining continued lines leaves the paths as they are written
- `token_spelled`: a written path is one token
- `mergeDollars_doubled`: doubled dollars are read as one
- `paths_text`: a written listing names its paths
-/

namespace MakeAtlas.Source.Depfile

open MakeAtlas.Text

/-! ## How a listing is written -/

/-- The end of a line. -/
inductive LineEnd where
  | lineFeed
  | returnLineFeed
  deriving DecidableEq, Repr

def LineEnd.chars : LineEnd → List Char
  | lineFeed => ['\n']
  | returnLineFeed => ['\r', '\n']

/-- What may stand between two paths: a blank, or the end of a line that is continued. -/
inductive Spacer where
  | space
  | tab
  | continued (ending : LineEnd)
  deriving DecidableEq, Repr

def Spacer.chars : Spacer → List Char
  | space => [' ']
  | tab => ['\t']
  | continued ending => '\\' :: ending.chars

/-- What is left of a spacer when continued lines are joined. -/
def Spacer.joined : Spacer → Char
  | space => ' '
  | tab => '\t'
  | continued _ => ' '

/-- A path that a listing can name. -/
structure ListedPath where
  chars : List Char
  ne_nil : chars ≠ []
  noBackslash : '\\' ∉ chars
  /-- Of all blanks, the path may hold spaces and tabs. -/
  inLine : ∀ c ∈ chars, isBlank c = true → isInlineBlank c = true

/-- A character of a path as it is written. -/
def spell (c : Char) : List Char :=
  if isInlineBlank c || c == '#' then ['\\', c] else if c = '$' then ['$', '$'] else [c]

/-- A character of a path as it stands in a token. -/
def doubled (c : Char) : List Char :=
  if c = '$' then ['$', '$'] else [c]

/-- A path with what stands in front of it. -/
structure Mention where
  gap : List Spacer
  path : ListedPath

def Mention.text (m : Mention) : List Char :=
  m.gap.flatMap Spacer.chars ++ m.path.chars.flatMap spell

/-- What is left of a mention when continued lines are joined. -/
def Mention.joined (m : Mention) : List Char :=
  m.gap.map Spacer.joined ++ m.path.chars.flatMap spell

/-- A listing as it is written. Its paths stand apart; the first one may follow the colon at
once. -/
structure Written where
  mentions : List Mention
  apart : ∀ m ∈ mentions.tail, m.gap ≠ []
  ends : List LineEnd

def Written.text (w : Written) : String :=
  Evidence.listingTarget ++ ":" ++
    String.ofList (w.mentions.flatMap Mention.text ++ w.ends.flatMap LineEnd.chars)

/-! ## Joining lines -/

theorem joinContinued_cons {c : Char} (h : c ≠ '\\') (rest : List Char) :
    joinContinued (c :: rest) = c :: joinContinued rest := by
  rw [joinContinued.eq_4]
  · rintro _ rfl
    exact absurd rfl h
  · rintro _ rfl
    exact absurd rfl h

/-- A backslash that continues no line stays. -/
theorem joinContinued_backslash {c : Char} (h : c ≠ '\r') (h' : c ≠ '\n') (rest : List Char) :
    joinContinued ('\\' :: c :: rest) = '\\' :: joinContinued (c :: rest) := by
  rw [joinContinued.eq_4]
  · rintro _ - hc
    cases hc
    exact h rfl
  · rintro _ - hc
    cases hc
    exact h' rfl

theorem joinContinued_spacer (s : Spacer) (rest : List Char) :
    joinContinued (s.chars ++ rest) = s.joined :: joinContinued rest := by
  cases s with
  | space => exact joinContinued_cons (by decide) rest
  | tab => exact joinContinued_cons (by decide) rest
  | continued ending => cases ending <;> rfl

theorem joinContinued_spell {c : Char} (h : c ≠ '\\') (rest : List Char) :
    joinContinued (spell c ++ rest) = spell c ++ joinContinued rest := by
  unfold spell
  split
  · next hmarked =>
    have hline : c ≠ '\r' ∧ c ≠ '\n' := by
      constructor <;> rintro rfl <;> exact absurd hmarked (by decide)
    exact (joinContinued_backslash hline.1 hline.2 rest).trans
      (congrArg _ (joinContinued_cons h rest))
  · split
    · exact (joinContinued_cons (by decide) _).trans
        (congrArg _ (joinContinued_cons (by decide) rest))
    · exact joinContinued_cons h rest

theorem joinContinued_mention (m : Mention) (rest : List Char) :
    joinContinued (m.text ++ rest) = m.joined ++ joinContinued rest := by
  have hgap : ∀ (gap : List Spacer) (rest : List Char),
      joinContinued (gap.flatMap Spacer.chars ++ rest) =
        gap.map Spacer.joined ++ joinContinued rest := by
    intro gap rest
    induction gap with
    | nil => rfl
    | cons s gap ih =>
      rw [List.flatMap_cons, List.append_assoc, joinContinued_spacer, ih, List.map_cons,
        List.cons_append]
  have hpath : ∀ cs : List Char, '\\' ∉ cs →
      joinContinued (cs.flatMap spell ++ rest) = cs.flatMap spell ++ joinContinued rest := by
    intro cs h
    induction cs with
    | nil => rfl
    | cons c cs ih =>
      rw [List.mem_cons, not_or] at h
      rw [List.flatMap_cons, List.append_assoc, joinContinued_spell (Ne.symm h.1), ih h.2,
        List.append_assoc]
  rw [Mention.text, Mention.joined, List.append_assoc, hgap, hpath _ m.path.noBackslash,
    List.append_assoc]

theorem joinContinued_ends (ends : List LineEnd) :
    joinContinued (ends.flatMap LineEnd.chars) = ends.flatMap LineEnd.chars := by
  induction ends with
  | nil => rfl
  | cons ending ends ih =>
    cases ending with
    | lineFeed => exact (joinContinued_cons (by decide) _).trans (congrArg _ ih)
    | returnLineFeed =>
      refine (joinContinued_cons (by decide) _).trans (congrArg _ ?_)
      exact (joinContinued_cons (by decide) _).trans (congrArg _ ih)

/-- Joining continued lines leaves the paths of a listing as they are written. -/
theorem joinContinued_mentions (mentions : List Mention) (ends : List LineEnd) :
    joinContinued (mentions.flatMap Mention.text ++ ends.flatMap LineEnd.chars) =
      mentions.flatMap Mention.joined ++ ends.flatMap LineEnd.chars := by
  induction mentions with
  | nil => exact joinContinued_ends ends
  | cons m mentions ih =>
    rw [List.flatMap_cons, List.append_assoc, joinContinued_mention, ih, List.flatMap_cons,
      List.append_assoc]

/-! ## Reading tokens -/

theorem token_cons {c : Char} (h : c ≠ '\\') (hblank : isBlank c = false) (rest : List Char) :
    token (c :: rest) = (c :: (token rest).1, (token rest).2) := by
  rw [token.eq_def]
  split
  · next hnil => cases hnil
  · next hlast =>
    cases hlast
    exact absurd rfl h
  · next hescape =>
    cases hescape
    exact absurd rfl h
  · next hcons =>
    cases hcons
    rw [if_neg (by simp [hblank])]

theorem token_backslash {c : Char} (h : c ≠ '\n') (rest : List Char) :
    token ('\\' :: c :: rest) = (c :: (token rest).1, (token rest).2) := by
  rw [token.eq_def]
  exact if_neg h

/-- No token starts with a blank. -/
theorem token_eq_nil {cs : List Char} (h : ∀ c ∈ cs.head?, isBlank c = true) :
    token cs = ([], cs) := by
  rw [token.eq_def]
  split
  · rfl
  · rfl
  · exact absurd (h '\\' rfl) (by decide)
  · next c rest _ _ => rw [if_pos (h c rfl)]

/-- A character of a path is read into the token that it is written in. -/
theorem token_spell {c : Char} (h : c ≠ '\\')
    (hline : isBlank c = true → isInlineBlank c = true) (rest : List Char) :
    token (spell c ++ rest) = (doubled c ++ (token rest).1, (token rest).2) := by
  unfold spell doubled
  split
  · next hmarked =>
    have hdollar : c ≠ '$' := by
      rintro rfl
      exact absurd hmarked (by decide)
    have hend : c ≠ '\n' := by
      rintro rfl
      exact absurd hmarked (by decide)
    rw [if_neg hdollar]
    exact token_backslash hend rest
  · next hmarked =>
    split
    · rw [List.cons_append, List.cons_append, token_cons (by decide) (by decide),
        token_cons (by decide) (by decide)]
      rfl
    · have hblank : isBlank c = false := by
        rw [Bool.eq_false_iff]
        intro hc
        simp [hline hc] at hmarked
      exact token_cons h hblank rest

/-- A written path is one token, up to the blank that follows it. -/
theorem token_spelled (p : ListedPath) {rest : List Char}
    (hrest : ∀ c ∈ rest.head?, isBlank c = true) :
    token (p.chars.flatMap spell ++ rest) = (p.chars.flatMap doubled, rest) := by
  suffices ∀ cs : List Char, '\\' ∉ cs → (∀ c ∈ cs, isBlank c = true → isInlineBlank c = true) →
      token (cs.flatMap spell ++ rest) = (cs.flatMap doubled, rest) from
    this p.chars p.noBackslash p.inLine
  intro cs h hline
  induction cs with
  | nil => exact token_eq_nil hrest
  | cons c cs ih =>
    rw [List.mem_cons, not_or] at h
    rw [List.forall_mem_cons] at hline
    rw [List.flatMap_cons, List.append_assoc, token_spell (Ne.symm h.1) hline.1, ih h.2 hline.2,
      List.flatMap_cons]

theorem doubled_ne_nil (c : Char) : doubled c ≠ [] := by
  unfold doubled
  split <;> simp

theorem tokens_of_token {cs first behind : List Char} (h : token cs = (first, behind))
    (hne : first ≠ []) : tokens cs = first :: tokens behind := by
  cases cs with
  | nil =>
    cases h
    exact absurd rfl hne
  | cons c rest =>
    rw [tokens]
    split
    · next hnil =>
      rw [h] at hnil
      exact absurd hnil hne
    · next c' more hfirst =>
      have hsame : first = c' :: more := by
        rw [h] at hfirst
        exact hfirst
      show (c' :: more) :: tokens (token (c :: rest)).2 = first :: tokens behind
      rw [h, hsame]

/-- A blank between tokens is passed over. -/
theorem tokens_blank {c : Char} (hblank : isBlank c = true) (rest : List Char) :
    tokens (c :: rest) = tokens rest := by
  have htoken : token (c :: rest) = ([], c :: rest) :=
    token_eq_nil fun d hd => by rwa [← Option.mem_some_iff.1 hd]
  rw [tokens]
  split
  · rfl
  · next hfirst =>
    rw [htoken] at hfirst
    cases hfirst

theorem tokens_blanks {blanks : List Char} (h : ∀ c ∈ blanks, isBlank c = true)
    (rest : List Char) : tokens (blanks ++ rest) = tokens rest := by
  induction blanks with
  | nil => rfl
  | cons c blanks ih =>
    rw [List.forall_mem_cons] at h
    rw [List.cons_append, tokens_blank h.1, ih h.2]

theorem isBlank_joined (s : Spacer) : isBlank s.joined = true := by
  cases s <;> rfl

theorem isBlank_of_mem_ends {ends : List LineEnd} {c : Char}
    (h : c ∈ ends.flatMap LineEnd.chars) : isBlank c = true := by
  obtain ⟨ending, -, hc⟩ := List.mem_flatMap.1 h
  cases ending with
  | lineFeed =>
    rw [List.mem_singleton.1 hc]
    rfl
  | returnLineFeed =>
    simp only [LineEnd.chars, List.mem_cons, List.not_mem_nil, or_false] at hc
    rcases hc with rfl | rfl <;> rfl

/-- Whatever follows a path starts with a blank. -/
theorem isBlank_of_head? {mentions : List Mention} (apart : ∀ m ∈ mentions, m.gap ≠ [])
    {ends : List LineEnd} {c : Char}
    (h : c ∈ (mentions.flatMap Mention.joined ++ ends.flatMap LineEnd.chars).head?) :
    isBlank c = true := by
  cases mentions with
  | nil => exact isBlank_of_mem_ends (List.mem_of_mem_head? h)
  | cons m mentions =>
    obtain ⟨s, gap, hgap⟩ := List.exists_cons_of_ne_nil (apart m List.mem_cons_self)
    have hc : s.joined = c := by
      simpa [Mention.joined, hgap] using h
    rw [← hc]
    exact isBlank_joined s

/-- The tokens of a listing are its paths, with doubled dollars. -/
theorem tokens_mentions {mentions : List Mention} (apart : ∀ m ∈ mentions.tail, m.gap ≠ [])
    (ends : List LineEnd) :
    tokens (mentions.flatMap Mention.joined ++ ends.flatMap LineEnd.chars) =
      mentions.map fun m => m.path.chars.flatMap doubled := by
  induction mentions with
  | nil =>
    have hblanks : ∀ c ∈ ends.flatMap LineEnd.chars, isBlank c = true := fun _ =>
      isBlank_of_mem_ends
    have hends := tokens_blanks hblanks []
    rw [List.append_nil] at hends
    rw [List.flatMap_nil, List.nil_append, hends, tokens, List.map_nil]
  | cons m mentions ih =>
    have hgap : ∀ c ∈ m.gap.map Spacer.joined, isBlank c = true := by
      intro c hc
      obtain ⟨s, -, rfl⟩ := List.mem_map.1 hc
      exact isBlank_joined s
    have hne : m.path.chars.flatMap doubled ≠ [] := by
      obtain ⟨c, cs, hcs⟩ := List.exists_cons_of_ne_nil m.path.ne_nil
      simp [hcs, doubled_ne_nil]
    have hafter : ∀ n ∈ mentions, n.gap ≠ [] := apart
    have hbehind : ∀ c ∈ (mentions.flatMap Mention.joined ++
        ends.flatMap LineEnd.chars).head?, isBlank c = true := fun _ => isBlank_of_head? hafter
    have htoken := token_spelled m.path hbehind
    rw [List.flatMap_cons, Mention.joined, List.append_assoc, List.append_assoc,
      tokens_blanks hgap, tokens_of_token htoken hne,
      ih fun n hn => hafter n (List.mem_of_mem_tail hn), List.map_cons]

/-! ## Reading paths -/

theorem mergeDollars_cons {c : Char} (h : c ≠ '$') (rest : List Char) :
    mergeDollars (c :: rest) = c :: mergeDollars rest := by
  rw [mergeDollars.eq_3]
  rintro _ rfl
  exact absurd rfl h

/-- Two dollars are read as one, also in a row of them. -/
theorem mergeDollars_doubled (cs : List Char) : mergeDollars (cs.flatMap doubled) = cs := by
  induction cs with
  | nil => rfl
  | cons c cs ih =>
    rw [List.flatMap_cons, doubled]
    split
    · next hc =>
      rw [hc]
      exact congrArg ('$' :: ·) ih
    · next hc => exact (mergeDollars_cons hc _).trans (congrArg (c :: ·) ih)

/-- A written listing names its paths, in order. -/
theorem paths_text (w : Written) :
    paths w.text = w.mentions.map fun m => String.ofList m.path.chars := by
  have htext : w.text.toList = "dummy:".toList ++
      (w.mentions.flatMap Mention.text ++ w.ends.flatMap LineEnd.chars) := by
    simp [Written.text, Evidence.listingTarget]
  -- no line is continued in front of the colon
  have hfront : ∀ rest, joinContinued ("dummy:".toList ++ rest) =
      "dummy:".toList ++ joinContinued rest := fun _ => rfl
  have hjoined : joinContinued w.text.toList = "dummy:".toList ++
      (w.mentions.flatMap Mention.joined ++ w.ends.flatMap LineEnd.chars) := by
    rw [htext, hfront, joinContinued_mentions]
  have hcut : cut? ':' (joinContinued w.text.toList) = some ("dummy".toList,
      w.mentions.flatMap Mention.joined ++ w.ends.flatMap LineEnd.chars) := by
    rw [hjoined]
    rfl
  simp only [paths, hcut, tokens_mentions w.apart, List.map_map, Function.comp_def,
    mergeDollars_doubled]

-- two paths with a continued line end between them
example : paths "dummy: my\\ dir/a.c\\\n c:/$$x\\#.h\n" = ["my dir/a.c", "c:/$x#.h"] := by
  decide +kernel

end MakeAtlas.Source.Depfile
