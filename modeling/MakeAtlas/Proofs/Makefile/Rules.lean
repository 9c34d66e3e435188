import MakeAtlas.Proofs.Makefile.Targets

/-!
# The rules of a Makefile

A line that begins with neither a blank nor a `#` is a rule if some text without an equals sign
stands in front of its first colon, the colon belongs to no assignment, and prerequisites follow it.
A line that defines a target is such a line as soon as it has prerequisites, and is read alike: what
is found by looking for targets is found by looking for rules.

## Key results

- `ruleLine?_eq_some_iff`: what a rule line looks like
- `mem_rules_iff`: the rules of a Makefile, said through its lines
- `states_iff_of_name`: of a line with a name in front, a rule and a target are read alike
- `targets_agree_with_rules`: targets with prerequisites are rules, and rules with a name that is
  directly followed by a colon are targets
-/

namespace MakeAtlas.Makefile

open MakeAtlas.Text

/-! ## Lines that state a rule -/

/-- A line states a rule: it begins with neither a blank nor `#`, the rule's head stands between
blanks in front of the first colon and holds no equals sign, and what follows makes the line no
assignment. -/
structure States (line : List Char) (head : String) (rest : List Char) : Prop where
  split : ∃ front, line = front ++ ':' :: rest ∧ ':' ∉ front ∧ trim front = head.toList
  begins : ∀ c ∈ line.head?, isBlank c = false ∧ c ≠ '#'
  head_ne : head.toList ≠ []
  noEquals : '=' ∉ head.toList
  notSet : isAssignment rest = false

theorem isRuleStart_iff {line : List Char} :
    isRuleStart line = true ↔ line ≠ [] ∧ ∀ c ∈ line.head?, isBlank c = false ∧ c ≠ '#' := by
  unfold isRuleStart
  split
  · simp
  · simp
  · next c rest hhash =>
    have hc : c ≠ '#' := fun hc => hhash hc
    simp [hc]

/-- A rule line has its head in front of the first colon, and a remainder that assigns nothing. -/
theorem ruleLine?_eq_some_iff {line rest : List Char} {head : String} :
    ruleLine? line = some (head, rest) ↔
      ∃ behind, States line head behind ∧ rest = dropSecondColon behind := by
  constructor
  · intro h
    rw [ruleLine?] at h
    split at h
    · next hstart =>
      split at h
      · cases h
      · next front behind hcut =>
        obtain ⟨hline, hcolon⟩ := eq_of_cut? hcut
        dsimp only at h
        split at h
        · cases h
        · next hkept =>
          cases h
          simp only [Bool.or_eq_true, not_or, Bool.not_eq_true, List.isEmpty_eq_false_iff,
            List.contains_eq_mem, decide_eq_false_iff_not] at hkept
          obtain ⟨⟨hne, hequals⟩, hassign⟩ := hkept
          exact ⟨behind, {
            split := ⟨front, hline, hcolon, by rw [String.toList_ofList]⟩
            begins := (isRuleStart_iff.1 hstart).2
            head_ne := by rwa [String.toList_ofList]
            noEquals := by rwa [String.toList_ofList]
            notSet := hassign }, rfl⟩
    · cases h
  · rintro ⟨behind, hstates, rfl⟩
    obtain ⟨front, rfl, hcolon, htrim⟩ := hstates.split
    have hstart : isRuleStart (front ++ ':' :: behind) = true :=
      isRuleStart_iff.2 ⟨by simp, hstates.begins⟩
    rw [ruleLine?, if_pos hstart, cut?_append hcolon]
    dsimp only
    rw [htrim, if_neg (by simp [hstates.head_ne, hstates.noEquals, hstates.notSet]),
      String.ofList_toList]

/-! ## The rules of a text -/

/-- A line holds a rule: it states the rule's head, and the rule's prerequisites, of which there are
some, are those that follow. -/
def Holds (line : List Char) (rule : Rule) : Prop :=
  ∃ rest, States line rule.targets rest ∧
    rule.prerequisites = prerequisites (dropSecondColon rest) ∧ rule.prerequisites ≠ []

/-- The rule that a line with a number holds. -/
def rule? (line : List Char) (number : Nat) : Option Rule :=
  match ruleLine? line with
  | none => none
  | some (head, rest) =>
    match prerequisites rest with
    | [] => none
    | found => some ⟨head, found, number⟩

theorem rules_eq (text : String) :
    rules text = ((lines text.toList).zipIdx 1).filterMap fun entry => rule? entry.1 entry.2 :=
  rfl

theorem rule?_eq_some_iff {line : List Char} {number : Nat} {rule : Rule} :
    rule? line number = some rule ↔ Holds line rule ∧ rule.line = number := by
  constructor
  · intro h
    rw [rule?] at h
    split at h
    · cases h
    · next head rest hrule =>
      obtain ⟨behind, hstates, rfl⟩ := ruleLine?_eq_some_iff.1 hrule
      split at h
      · cases h
      · next hfound =>
        cases h
        exact ⟨⟨behind, hstates, rfl, hfound⟩, rfl⟩
  · rintro ⟨⟨rest, hstates, hfound, hne⟩, rfl⟩
    rw [rule?, ruleLine?_eq_some_iff.2 ⟨rest, hstates, rfl⟩]
    dsimp only
    rw [← hfound]
    split
    · next hnil => exact absurd hnil hne
    · rfl

/-- The rules of a Makefile are those that its lines hold, each with the number of its line. -/
theorem mem_rules_iff {text : String} {rule : Rule} :
    rule ∈ rules text ↔ ∃ before line after, lines text.toList = before ++ line :: after ∧
      Holds line rule ∧ rule.line = before.length + 1 := by
  rw [rules_eq, List.mem_filterMap]
  constructor
  · rintro ⟨⟨line, number⟩, hentry, hrule⟩
    obtain ⟨before, after, hlines, hnumber⟩ := mem_zipIdx_iff.1 hentry
    obtain ⟨hholds, hline⟩ := rule?_eq_some_iff.1 hrule
    exact ⟨before, line, after, hlines, hholds, by omega⟩
  · rintro ⟨before, line, after, hlines, hholds, hline⟩
    refine ⟨(line, rule.line), mem_zipIdx_iff.2 ⟨before, after, hlines, by omega⟩, ?_⟩
    exact rule?_eq_some_iff.2 ⟨hholds, rfl⟩

/-! ## Rules and targets -/

/-- In front of a colon that follows a name directly there is nothing but the name. -/
private theorem eq_of_name_colon {name front behind rest : List Char}
    (hname : ∀ c ∈ name, isNameChar c = true) (hcolon : ':' ∉ front)
    (h : name ++ ':' :: behind = front ++ ':' :: rest) : front = name ∧ rest = behind := by
  have hnone : ':' ∉ name := fun hmem => absurd (hname ':' hmem) (by decide)
  have hcut : cut? ':' (front ++ ':' :: rest) = some (front, rest) := cut?_append hcolon
  rw [← h, cut?_append hnone] at hcut
  cases hcut
  exact ⟨rfl, rfl⟩

/-- A name has no blanks around it. -/
private theorem trim_name {name : List Char} (h : ∀ c ∈ name, isNameChar c = true) :
    trim name = name :=
  trim_eq_self (fun c hc => isBlank_eq_false_of_isNameChar (h c (List.mem_of_mem_head? hc)))
    fun c hc => isBlank_eq_false_of_isNameChar (h c (List.mem_of_getLast? hc))

/-- A line that begins with the name of a target and a colon states a rule exactly if it defines the
    target: the head is the name, and what follows is the same. -/
theorem states_iff_of_name {line behind rest : List Char} {name head : String}
    (hline : line = name.toList ++ ':' :: behind) (hne : name.toList ≠ [])
    (hname : ∀ c ∈ name.toList, c.isAlphanum = true ∨ c = '_' ∨ c = '-')
    (hshown : name.toList.head? ≠ some '_') :
    States line head rest ↔ head = name ∧ Defines line name rest := by
  have hchars : ∀ c ∈ name.toList, isNameChar c = true := fun c hc => isNameChar_iff.2 (hname c hc)
  constructor
  · intro h
    obtain ⟨front, hsplit, hcolon, htrim⟩ := h.split
    obtain ⟨rfl, rfl⟩ := eq_of_name_colon hchars hcolon (hline.symm.trans hsplit)
    rw [trim_name hchars, String.toList_inj] at htrim
    obtain ⟨hset, honce, hatOnce⟩ := isAssignment_eq_false_iff.1 h.notSet
    exact ⟨htrim.symm, hsplit, hne, hname, hshown, hset, honce, hatOnce⟩
  · rintro ⟨rfl, h⟩
    have hnone : ':' ∉ head.toList := fun hmem => absurd (hchars ':' hmem) (by decide)
    obtain ⟨first, more, hfirst⟩ := List.exists_cons_of_ne_nil hne
    have hnameChar := hchars first (by rw [hfirst]; exact List.mem_cons_self)
    exact {
      split := ⟨head.toList, h.split, hnone, trim_name hchars⟩
      begins := by
        intro c hc
        rw [hline, hfirst] at hc
        cases hc
        refine ⟨isBlank_eq_false_of_isNameChar hnameChar, ?_⟩
        rintro rfl
        exact absurd hnameChar (by decide)
      head_ne := hne
      noEquals := fun hmem => absurd (hchars '=' hmem) (by decide)
      notSet := isAssignment_eq_false_iff.2 ⟨h.notSet, h.notSetOnce, h.notSetAtOnce⟩ }

/-- A line that defines a target with prerequisites holds the rule with the target's name and
    prerequisites, and no other rule. -/
theorem holds_iff_of_defines {line rest : List Char} {name : String} {rule : Rule}
    (h : Defines line name rest) :
    Holds line rule ↔ rule.targets = name ∧
      rule.prerequisites = prerequisites (dropSecondColon rest) ∧ rule.prerequisites ≠ [] := by
  have hiff : ∀ {head behind}, States line head behind ↔ head = name ∧ Defines line name behind :=
    states_iff_of_name h.split h.name_ne h.nameChars h.shown
  constructor
  · rintro ⟨behind, hstates, hfound, hne⟩
    obtain ⟨htargets, hdefines⟩ := hiff.1 hstates
    have hsame := List.append_cancel_left (h.split.symm.trans hdefines.split)
    cases hsame
    exact ⟨htargets, hfound, hne⟩
  · rintro ⟨htargets, hfound, hne⟩
    exact ⟨rest, hiff.2 ⟨htargets, h⟩, hfound, hne⟩

/-- What looking for targets and looking for rules find in a text agrees. -/
structure ScansAgree (text : String) : Prop where
  /-- A target with prerequisites is a rule with its name and prerequisites, at the line of its last
  definition. -/
  rule_of_target : ∀ name found, (name, found) ∈ targets text → found ≠ [] →
    ∃ before line after rest, lines text.toList = before ++ line :: after ∧
      Defines line name rest ∧ (∀ later ∈ after, ∀ rest', ¬ Defines later name rest') ∧
      ⟨name, found, before.length + 1⟩ ∈ rules text
  /-- A rule whose line begins with a name that is not internal, directly followed by a colon, names
  a target. -/
  target_of_rule : ∀ rule ∈ rules text, ∀ before line after name behind,
    lines text.toList = before ++ line :: after → rule.line = before.length + 1 →
    line = name.toList ++ ':' :: behind → name.toList ≠ [] →
    (∀ c ∈ name.toList, c.isAlphanum = true ∨ c = '_' ∨ c = '-') →
    name.toList.head? ≠ some '_' → rule.targets = name ∧ ∃ found, (name, found) ∈ targets text
  /-- No prerequisite of a target is missed by the rules. -/
  none_missed : ∀ name found prerequisite, (name, found) ∈ targets text → prerequisite ∈ found →
    ∃ rule ∈ rules text, rule.targets = name ∧ prerequisite ∈ rule.prerequisites

/-- A target with prerequisites is the rule of the line that defines it last. -/
private theorem rule_of_mem_targets {text name : String} {found : List String}
    (hmem : (name, found) ∈ targets text) (hne : found ≠ []) :
    ∃ before line after rest, lines text.toList = before ++ line :: after ∧
      Defines line name rest ∧ (∀ later ∈ after, ∀ rest', ¬ Defines later name rest') ∧
      ⟨name, found, before.length + 1⟩ ∈ rules text := by
  have hlists := listsTargets_targets text
  have hget := (Table.get?_eq_some_iff_mem hlists.once).2 hmem
  obtain ⟨before, line, after, rest, hlines, hdefines, hlast, hfound⟩ :=
    (hlists.last_iff name found).1 hget
  refine ⟨before, line, after, rest, hlines, hdefines, hlast, ?_⟩
  exact mem_rules_iff.2 ⟨before, line, after, hlines,
    (holds_iff_of_defines hdefines).2 ⟨rfl, hfound, hne⟩, rfl⟩

/-- In every text, what looking for targets finds is found by looking for rules, and the other way
    round where a rule's line has the form of a target's. -/
theorem targets_agree_with_rules (text : String) : ScansAgree text where
  rule_of_target _ _ hmem hne := rule_of_mem_targets hmem hne
  target_of_rule := by
    intro rule hrule before line after name behind hlines hnumber hline hne hname hshown
    obtain ⟨before', line', after', hlines', hholds, hnumber'⟩ := mem_rules_iff.1 hrule
    -- the number tells the line
    have hlength : before.length = before'.length := by omega
    obtain ⟨-, hsame⟩ := List.append_inj (hlines.symm.trans hlines') hlength
    cases hsame
    obtain ⟨rest, hstates, -, -⟩ := hholds
    obtain ⟨htargets, hdefines⟩ := (states_iff_of_name hline hne hname hshown).1 hstates
    have hkey : name ∈ (targets text).keys :=
      ((listsTargets_targets text).mem_iff name).2
        ⟨line, by rw [hlines]; exact List.mem_append_right _ List.mem_cons_self, rest, hdefines⟩
    obtain ⟨found, hget⟩ := Table.exists_get?_of_mem_keys hkey
    exact ⟨htargets, found, Table.mem_of_get? hget⟩
  none_missed := by
    intro name found prerequisite hmem hprerequisite
    obtain ⟨_, _, _, _, -, -, -, hrule⟩ :=
      rule_of_mem_targets hmem (List.ne_nil_of_mem hprerequisite)
    exact ⟨_, hrule, rfl, hprerequisite⟩

-- neither two names nor an internal one make a target, but both head a rule
example : targets "a:: x\nb c: y\n_d: z" = [("a", ["x"])] ∧
    rules "a:: x\nb c: y\n_d: z" = [⟨"a", ["x"], 1⟩, ⟨"b c", ["y"], 2⟩, ⟨"_d", ["z"], 3⟩] := by
  decide +kernel

end MakeAtlas.Makefile
