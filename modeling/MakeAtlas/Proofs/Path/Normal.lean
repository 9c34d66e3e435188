import MakeAtlas.Path.Basic

/-!
# Normal forms of paths

A path's normal form keeps the path's anchor, and its steps are the path's steps with every `..`
resolved that can be. Resolving some `..` early changes nothing that is resolved later, so a
relative path may be brought into normal form before it is seen from a folder.

## Key results

- `steps_append_slash`: the steps of two paths with a slash between them
- `steps_joinSteps`: steps written with slashes between them are read back
- `anchor_normal`, `steps_normal`: the anchor and the steps of a normal form
- `foldl_advance_collapse`: resolving early changes nothing later
- `normalize_normalize`: a normal form is its own
- `resolve_normalize`: a relative path and its normal form lead to the same place
-/

namespace MakeAtlas

/-- Cutting a text at a class of characters is the library's split of its characters. -/
theorem Text.splitWhen_eq_splitOnP (sep : Char → Bool) (cs : List Char) :
    Text.splitWhen sep cs = cs.splitOnP sep := by
  induction cs with
  | nil => rw [List.splitOnP_nil, splitWhen]
  | cons c cs ih =>
    rw [splitWhen, List.splitOnP_cons_eq_if_modifyHead, ih]
    by_cases hc : sep c = true
    · rw [if_pos hc, if_pos hc]
    · rw [if_neg hc, if_neg hc]
      cases h : cs.splitOnP sep with
      | nil => exact absurd h (List.splitOnP_ne_nil sep cs)
      | cons piece pieces => rfl

namespace Path

open MakeAtlas.Text

/-! ## Steps and slashes -/

/-- A piece between slashes that is a step: it names something or goes up. -/
structure IsStep (piece : List Char) : Prop where
  ne_nil : piece ≠ []
  ne_here : piece ≠ here
  not_slash : '/' ∉ piece

/-- Steps are the pieces of the library's split that name something or go up. -/
theorem steps_eq_filter_splitOn (cs : List Char) :
    steps cs = (cs.splitOn '/').filter fun step => !step.isEmpty && step != here := by
  rw [steps, splitWhen_eq_splitOnP, List.splitOn_eq_splitOnP]

/-- A first step before others. -/
theorem joinSteps_cons_cons (name next : List Char) (rest : List (List Char)) :
    joinSteps (name :: next :: rest) = name ++ '/' :: joinSteps (next :: rest) :=
  rfl

/-- Writing steps with slashes is the library's `intercalate`. -/
theorem joinSteps_eq_intercalate (names : List (List Char)) :
    joinSteps names = ['/'].intercalate names := by
  induction names with
  | nil => rfl
  | cons name names ih =>
    cases names with
    | nil => rw [joinSteps, List.intercalate_singleton]
    | cons next rest =>
      rw [joinSteps_cons_cons, ih, List.intercalate_cons_cons, List.append_assoc,
        List.singleton_append]

/-- Steps of two lists that both have some are written one list after the other. -/
theorem joinSteps_append {first second : List (List Char)} (hf : first ≠ []) (hs : second ≠ []) :
    joinSteps (first ++ second) = joinSteps first ++ '/' :: joinSteps second := by
  induction first with
  | nil => exact absurd rfl hf
  | cons name names ih =>
    cases names with
    | nil =>
      obtain ⟨next, rest, rfl⟩ := List.exists_cons_of_ne_nil hs
      rfl
    | cons next rest =>
      have hrest : joinSteps (next :: (rest ++ second)) =
          joinSteps (next :: rest) ++ '/' :: joinSteps second := ih (by simp)
      rw [List.cons_append, List.cons_append, joinSteps_cons_cons, hrest, joinSteps_cons_cons,
        List.append_assoc, List.cons_append]

/-- A character of a piece of a split is one of the text's, and not the one it was split at. -/
private theorem mem_of_mem_splitOn {cs piece : List Char} {c : Char} (h : piece ∈ cs.splitOn '/')
    (hc : c ∈ piece) : c ∈ cs ∧ c ≠ '/' := by
  induction cs generalizing piece with
  | nil =>
    rw [List.splitOn_nil, List.mem_singleton] at h
    rw [h] at hc
    exact nomatch hc
  | cons d cs ih =>
    rw [List.splitOn_cons_eq_if_modifyHead] at h
    by_cases hd : (d == '/') = true
    · rw [if_pos hd, List.mem_cons] at h
      rcases h with rfl | h
      · exact nomatch hc
      · exact ⟨List.mem_cons_of_mem d (ih h hc).1, (ih h hc).2⟩
    · rw [if_neg hd] at h
      -- the character goes to the front of the first piece
      obtain ⟨first, pieces, hcs⟩ := List.exists_cons_of_ne_nil (List.splitOn_ne_nil '/' cs)
      rw [hcs] at h ih
      rw [List.modifyHead_cons, List.mem_cons] at h
      have hrest : ∀ piece ∈ first :: pieces, c ∈ piece → c ∈ d :: cs ∧ c ≠ '/' :=
        fun piece hp hcp => ⟨List.mem_cons_of_mem d (ih hp hcp).1, (ih hp hcp).2⟩
      rcases h with rfl | h
      · rcases List.mem_cons.1 hc with rfl | hc
        · exact ⟨List.mem_cons_self, fun hs => hd (by simp [hs])⟩
        · exact hrest first List.mem_cons_self hc
      · exact hrest piece (List.mem_cons_of_mem first h) hc

/-- What `steps` gives are steps. -/
theorem isStep_of_mem_steps {cs piece : List Char} (h : piece ∈ steps cs) : IsStep piece := by
  rw [steps_eq_filter_splitOn, List.mem_filter] at h
  obtain ⟨hpiece, hkept⟩ := h
  simp only [Bool.and_eq_true, Bool.not_eq_true', bne_iff_ne, List.isEmpty_eq_false_iff] at hkept
  exact ⟨hkept.1, hkept.2, fun hs => (mem_of_mem_splitOn hpiece hs).2 rfl⟩

/-- Steps stay when they are filtered once more. -/
private theorem filter_isStep {names : List (List Char)} (h : ∀ n ∈ names, IsStep n) :
    (names.filter fun step => !step.isEmpty && step != here) = names := by
  rw [List.filter_eq_self]
  intro n hn
  simp [(h n hn).ne_nil, (h n hn).ne_here]

/-- Steps written with slashes between them are read back. -/
theorem steps_joinSteps {names : List (List Char)} (h : ∀ n ∈ names, IsStep n) :
    steps (joinSteps names) = names := by
  cases hnames : names with
  | nil => rfl
  | cons name rest =>
    rw [← hnames, steps_eq_filter_splitOn, joinSteps_eq_intercalate,
      List.splitOn_intercalate '/' (fun n hn => (h n hn).not_slash) (by simp [hnames]),
      filter_isStep h]

/-- The steps of two paths with a slash between them. -/
theorem steps_append_slash (first second : List Char) :
    steps (first ++ '/' :: second) = steps first ++ steps second := by
  simp only [steps_eq_filter_splitOn, List.splitOn_append_cons_self, List.filter_append]

/-- A slash at the front gives no step. -/
theorem steps_cons_slash (cs : List Char) : steps ('/' :: cs) = steps cs :=
  steps_append_slash [] cs

/-- The characters of a step are characters of its path. -/
theorem mem_of_mem_steps {cs piece : List Char} {c : Char} (h : piece ∈ steps cs)
    (hc : c ∈ piece) : c ∈ cs := by
  rw [steps_eq_filter_splitOn] at h
  exact (mem_of_mem_splitOn (List.mem_filter.1 h).1 hc).1

/-! ## Anchors -/

/-- An anchored path is a slash with what follows it. -/
theorem exists_of_isAnchored {cs : List Char} (h : isAnchored cs = true) :
    ∃ rest, cs = '/' :: rest := by
  cases cs with
  | nil => exact nomatch h
  | cons c rest =>
    have hc : c = '/' := by simpa [isAnchored] using h
    exact ⟨rest, by rw [hc]⟩

/-- Two texts without a slash at the front make one without a slash at the front. -/
private theorem isAnchored_append {cs text : List Char} (hcs : isAnchored cs = false)
    (htext : isAnchored text = false) : isAnchored (cs ++ text) = false := by
  cases cs with
  | nil => exact htext
  | cons c rest => exact hcs

/-- Without a slash at the front there is no anchor. -/
theorem anchor_of_not {cs : List Char} (h : isAnchored cs = false) : anchor cs = [] := by
  cases cs with
  | nil => rfl
  | cons c rest =>
    have hc : c ≠ '/' := by simpa [isAnchored] using h
    simp [anchor, hc]

/-- One slash at the front is the anchor. -/
private theorem anchor_one {cs : List Char} (h : isAnchored cs = false) :
    anchor ('/' :: cs) = ['/'] := by
  cases cs with
  | nil => rfl
  | cons c rest =>
    have hc : c ≠ '/' := by simpa [isAnchored] using h
    simp [anchor, hc]

/-- Exactly two slashes at the front are the anchor. -/
private theorem anchor_two {cs : List Char} (h : isAnchored cs = false) :
    anchor ('/' :: '/' :: cs) = ['/', '/'] := by
  cases cs with
  | nil => rfl
  | cons c rest =>
    have hc : c ≠ '/' := by simpa [isAnchored] using h
    simp [anchor, hc]

/-- An anchor is no slash, one or two. -/
theorem anchor_cases (cs : List Char) :
    anchor cs = [] ∨ anchor cs = ['/'] ∨ anchor cs = ['/', '/'] := by
  unfold anchor
  split <;> simp

/-- A text without a slash at the front does not change the anchor of what it follows. -/
theorem anchor_append (cs : List Char) {text : List Char} (h : isAnchored text = false) :
    anchor (cs ++ text) = anchor cs := by
  -- by the number of slashes at the front: none, one, two, more
  cases hcs : isAnchored cs with
  | false => rw [anchor_of_not (isAnchored_append hcs h), anchor_of_not hcs]
  | true =>
    obtain ⟨second, rfl⟩ := exists_of_isAnchored hcs
    cases hsecond : isAnchored second with
    | false =>
      rw [List.cons_append, anchor_one (isAnchored_append hsecond h), anchor_one hsecond]
    | true =>
      obtain ⟨third, rfl⟩ := exists_of_isAnchored hsecond
      cases hthird : isAnchored third with
      | false =>
        rw [List.cons_append, List.cons_append, anchor_two (isAnchored_append hthird h),
          anchor_two hthird]
      | true =>
        obtain ⟨rest, rfl⟩ := exists_of_isAnchored hthird
        rfl

/-- An anchor in front of a text without a slash there is that text's anchor. -/
theorem anchor_anchor_append (cs : List Char) {text : List Char} (h : isAnchored text = false) :
    anchor (anchor cs ++ text) = anchor cs := by
  rw [anchor_append (anchor cs) h]
  rcases anchor_cases cs with hcs | hcs | hcs <;> rw [hcs] <;> rfl

/-- An anchor gives no step. -/
theorem steps_anchor_append (cs text : List Char) : steps (anchor cs ++ text) = steps text := by
  rcases anchor_cases cs with hcs | hcs | hcs <;> rw [hcs]
  · rfl
  · exact steps_cons_slash text
  · rw [List.cons_append, steps_cons_slash, List.cons_append, steps_cons_slash, List.nil_append]

/-- Only a path with a slash at the front has an anchor. -/
theorem isEmpty_anchor (cs : List Char) : (anchor cs).isEmpty = !isAnchored cs := by
  cases hcs : isAnchored cs with
  | false => rw [anchor_of_not hcs]; rfl
  | true =>
    obtain ⟨rest, rfl⟩ := exists_of_isAnchored hcs
    unfold anchor
    split <;> simp_all

/-- Paths with one anchor are both anchored or both not. -/
theorem isAnchored_congr {cs ds : List Char} (h : anchor cs = anchor ds) :
    isAnchored cs = isAnchored ds := by
  rw [← Bool.not_inj_iff, ← isEmpty_anchor, ← isEmpty_anchor, h]

/-! ## Normal forms -/

/-- Steps written with slashes do not begin with a slash. -/
theorem isAnchored_joinSteps {names : List (List Char)} (h : ∀ n ∈ names, IsStep n) :
    isAnchored (joinSteps names) = false := by
  cases names with
  | nil => rfl
  | cons name rest =>
    have hname := h name List.mem_cons_self
    obtain ⟨c, cs, rfl⟩ := List.exists_cons_of_ne_nil hname.ne_nil
    have hc : c ≠ '/' := fun hc => hname.not_slash (by simp [hc])
    cases rest <;> simp [joinSteps, isAnchored, hc]

/-- Going one step further adds nothing but the step. -/
private theorem mem_foldl_advance {anchored : Bool} {trail names : List (List Char)}
    {n : List Char} (h : n ∈ names.foldl (advance anchored) trail) : n ∈ trail ∨ n ∈ names := by
  induction names generalizing trail with
  | nil => exact Or.inl h
  | cons name names ih =>
    rw [List.foldl_cons] at h
    rcases ih h with htrail | hnames
    · have hstep : n ∈ trail ∨ n = name := by
        -- a step is put on the trail, is dropped, or takes the last one back
        unfold advance at htrail
        split at htrail
        · split at htrail
          · split at htrail <;> simp_all
          · split at htrail <;> simp_all
        · simpa [or_comm] using htrail
      rcases hstep with htrail | rfl
      · exact Or.inl htrail
      · exact Or.inr List.mem_cons_self
    · exact Or.inr (List.mem_cons_of_mem _ hnames)

/-- Resolving steps adds no step. -/
theorem mem_of_mem_collapse {anchored : Bool} {names : List (List Char)} {n : List Char}
    (h : n ∈ collapse anchored names) : n ∈ names := by
  rw [collapse, List.mem_reverse] at h
  simpa using mem_foldl_advance h

/-- From an anchor on, every `..` is resolved. -/
theorem up_not_mem_collapse (names : List (List Char)) : up ∉ collapse true names := by
  suffices ∀ trail : List (List Char), up ∉ trail → up ∉ names.foldl (advance true) trail by
    rw [collapse, List.mem_reverse]
    exact this [] List.not_mem_nil
  induction names with
  | nil => exact fun _ h => h
  | cons name names ih =>
    intro trail htrail
    apply ih
    unfold advance
    split
    · cases trail with
      | nil => exact List.not_mem_nil
      | cons last above =>
        rw [List.mem_cons, not_or] at htrail
        simpa [Ne.symm htrail.1] using htrail.2
    · next hname => simp [Ne.symm hname, htrail]

/-- The steps of a normal form, before they are written, are steps. -/
private theorem isStep_of_mem_collapse {anchored : Bool} {cs n : List Char}
    (h : n ∈ collapse anchored (steps cs)) : IsStep n :=
  isStep_of_mem_steps (mem_of_mem_collapse h)

/-- A normal form is the anchor with the resolved steps, or `.` where there are neither. -/
theorem normal_cases (cs : List Char) :
    normal cs = anchor cs ++ joinSteps (collapse (isAnchored cs) (steps cs)) ∨
      anchor cs ++ joinSteps (collapse (isAnchored cs) (steps cs)) = [] ∧ normal cs = here := by
  have hanchored : (!(anchor cs).isEmpty) = isAnchored cs := by rw [isEmpty_anchor, Bool.not_not]
  unfold normal
  simp only [hanchored]
  split
  · next hnil => exact Or.inr ⟨hnil, rfl⟩
  · exact Or.inl rfl

/-- The normal form of an anchored path is its anchor with its resolved steps. -/
theorem normal_of_isAnchored {cs : List Char} (h : isAnchored cs = true) :
    normal cs = anchor cs ++ joinSteps (collapse true (steps cs)) := by
  rcases normal_cases cs with hnormal | ⟨hnil, _⟩
  · rw [hnormal, h]
  · have hanchor := isEmpty_anchor cs
    rw [(List.append_eq_nil_iff.1 hnil).1, h] at hanchor
    exact nomatch hanchor

/-- The anchor of a normal form is the path's. -/
theorem anchor_normal (cs : List Char) : anchor (normal cs) = anchor cs := by
  have hsteps : ∀ n ∈ collapse (isAnchored cs) (steps cs), IsStep n :=
    fun n => isStep_of_mem_collapse
  have htext := anchor_anchor_append cs (isAnchored_joinSteps hsteps)
  rcases normal_cases cs with hnormal | ⟨hnil, hnormal⟩
  · rw [hnormal, htext]
  · rw [hnormal, ← htext, hnil]
    rfl

/-- The steps of a normal form are the path's resolved steps. -/
theorem steps_normal (cs : List Char) :
    steps (normal cs) = collapse (isAnchored cs) (steps cs) := by
  have htext : steps (anchor cs ++ joinSteps (collapse (isAnchored cs) (steps cs))) =
      collapse (isAnchored cs) (steps cs) := by
    rw [steps_anchor_append, steps_joinSteps fun n => isStep_of_mem_collapse]
  rcases normal_cases cs with hnormal | ⟨hnil, hnormal⟩
  · rw [hnormal, htext]
  · rw [hnormal, ← htext, hnil]
    rfl

/-- A normal form is known by the anchor and the resolved steps. -/
theorem normal_congr {cs ds : List Char} (hanchor : anchor cs = anchor ds)
    (hsteps : collapse (isAnchored cs) (steps cs) = collapse (isAnchored ds) (steps ds)) :
    normal cs = normal ds := by
  rw [isAnchored_congr hanchor] at hsteps
  unfold normal
  simp only [hanchor, isEmpty_anchor, Bool.not_not, hsteps]

/-- The characters of written steps are those of the steps, and slashes. -/
theorem mem_of_mem_joinSteps {names : List (List Char)} {c : Char}
    (h : c ∈ joinSteps names) : c = '/' ∨ ∃ n ∈ names, c ∈ n := by
  induction names with
  | nil => exact nomatch h
  | cons name names ih =>
    cases names with
    | nil => exact Or.inr ⟨name, List.mem_cons_self, h⟩
    | cons next rest =>
      rw [joinSteps_cons_cons, List.mem_append, List.mem_cons] at h
      rcases h with hname | hslash | hrest
      · exact Or.inr ⟨name, List.mem_cons_self, hname⟩
      · exact Or.inl hslash
      · rcases ih hrest with hslash | ⟨n, hn, hc⟩
        · exact Or.inl hslash
        · exact Or.inr ⟨n, List.mem_cons_of_mem _ hn, hc⟩

/-- The characters of a normal form are the path's, slashes and dots. -/
theorem mem_of_mem_normal {cs : List Char} {c : Char} (h : c ∈ normal cs) :
    c ∈ cs ∨ c = '/' ∨ c = '.' := by
  -- the dot comes from the form of a path without steps
  rcases normal_cases cs with hnormal | ⟨_, hnormal⟩
  · rw [hnormal, List.mem_append] at h
    rcases h with hanchor | hsteps
    · have hslash : c = '/' := by
        rcases anchor_cases cs with hcs | hcs | hcs <;> simp_all
      exact Or.inr (Or.inl hslash)
    · rcases mem_of_mem_joinSteps hsteps with hslash | ⟨n, hn, hc⟩
      · exact Or.inr (Or.inl hslash)
      · exact Or.inl (mem_of_mem_steps (mem_of_mem_collapse hn) hc)
  · rw [hnormal] at h
    exact Or.inr (Or.inr (List.mem_singleton.1 h))

/-! ## Resolving early -/

/-- One step resolved early: a `..` that takes back a step of its own would take it back later as
    well. -/
private theorem foldl_advance_step (anchored : Bool) (trail early : List (List Char))
    (name : List Char) :
    (advance false early name).reverse.foldl (advance anchored) trail =
      advance anchored (early.reverse.foldl (advance anchored) trail) name := by
  have hlater : ∀ last above, (last :: above).reverse.foldl (advance anchored) trail =
      advance anchored (above.reverse.foldl (advance anchored) trail) last := by
    intro last above
    rw [List.reverse_cons, List.foldl_append, List.foldl_cons, List.foldl_nil]
  by_cases hup : name = up
  · subst hup
    cases early with
    | nil => rfl
    | cons last above =>
      by_cases hlast : last = up
      · subst hlast
        have hkept : advance false (up :: above) up = up :: up :: above := by simp [advance]
        rw [hkept, hlater]
      · -- the last step is taken back, early or late
        have htaken : ∀ b rest, advance b (last :: rest) up = rest := by
          intro b rest
          simp [advance, hlast]
        have hput : ∀ rest, advance anchored rest last = last :: rest := by
          intro rest
          simp [advance, hlast]
        rw [htaken, hlater, hput, htaken]
  · have hkept : advance false early name = name :: early := by simp [advance, hup]
    rw [hkept, hlater]

/-- Steps that are resolved among themselves lead, along any trail, where they lead unresolved. -/
theorem foldl_advance_collapse (anchored : Bool) (trail names : List (List Char)) :
    (collapse false names).foldl (advance anchored) trail =
      names.foldl (advance anchored) trail := by
  -- The induction is on the steps, over every trail of steps that were resolved before
  have hrun : ∀ early, (names.foldl (advance false) early).reverse.foldl (advance anchored) trail =
      names.foldl (advance anchored) (early.reverse.foldl (advance anchored) trail) := by
    induction names with
    | nil => exact fun early => rfl
    | cons name names ih =>
      intro early
      rw [List.foldl_cons, List.foldl_cons, ih, foldl_advance_step]
  exact hrun []

/-- Where nothing goes back, nothing is resolved. -/
theorem foldl_advance_eq (anchored : Bool) {down : List (List Char)} (h : up ∉ down)
    (trail : List (List Char)) : down.foldl (advance anchored) trail = down.reverse ++ trail := by
  induction down generalizing trail with
  | nil => rfl
  | cons step down ih =>
    rw [List.mem_cons, not_or] at h
    have hput : advance anchored trail step = step :: trail := by
      unfold advance
      rw [if_neg (Ne.symm h.1)]
    rw [List.foldl_cons, hput, ih h.2, List.reverse_cons, List.append_assoc, List.singleton_append]

theorem collapse_eq_self (anchored : Bool) {down : List (List Char)} (h : up ∉ down) :
    collapse anchored down = down := by
  rw [collapse, foldl_advance_eq anchored h, List.append_nil, List.reverse_reverse]

/-- Steps that go down are left as they are behind others. -/
theorem collapse_append_down (anchored : Bool) (steps : List (List Char)) {down : List (List Char)}
    (h : up ∉ down) : collapse anchored (steps ++ down) = collapse anchored steps ++ down := by
  rw [collapse_append, foldl_advance_eq anchored h, List.reverse_append, List.reverse_reverse,
    List.reverse_reverse]

/-- Nothing is left to resolve in resolved steps. -/
theorem collapse_collapse (anchored : Bool) (steps : List (List Char)) :
    collapse anchored (collapse anchored steps) = collapse anchored steps := by
  cases anchored with
  | true => exact collapse_eq_self true (up_not_mem_collapse steps)
  | false => exact congrArg List.reverse (foldl_advance_collapse false [] steps)

/-- Steps that lead down, once they are resolved among themselves, are left so behind others. -/
theorem collapse_append_straight (anchored : Bool) (first : List (List Char))
    {second : List (List Char)} (h : up ∉ collapse false second) :
    collapse anchored (first ++ second) = collapse anchored first ++ collapse false second := by
  rw [← collapse_append_down anchored first h, collapse_append, collapse_append,
    foldl_advance_collapse]

/-! ## Paths seen from a folder -/

/-- A path seen from a folder has the folder's anchor, unless it has one of its own. -/
theorem anchor_append_path (folder : List Char) {path : List Char} (h : isAnchored path = false) :
    anchor (append folder path) = anchor folder := by
  unfold append
  rw [if_neg (by simp [h])]
  split
  · exact anchor_append folder h
  · next hend =>
    -- the slash comes after a last character that is none
    rw [Bool.or_eq_true, not_or, beq_iff_eq, List.isEmpty_iff] at hend
    obtain ⟨hne, hlast⟩ := hend
    obtain ⟨init, c, rfl⟩ : ∃ init c, folder = init ++ [c] :=
      ⟨folder.dropLast, folder.getLast hne, (List.dropLast_concat_getLast hne).symm⟩
    have hc : c ≠ '/' := by simpa using hlast
    have hfree : ∀ rest, isAnchored (c :: rest) = false := by
      intro rest
      simp [isAnchored, hc]
    rw [List.append_assoc, List.singleton_append, anchor_append init (hfree _),
      anchor_append init (hfree _)]

/-- The steps of a path seen from a folder are the folder's, then the path's. -/
theorem steps_append_path (folder : List Char) {path : List Char} (h : isAnchored path = false) :
    steps (append folder path) = steps folder ++ steps path := by
  unfold append
  rw [if_neg (by simp [h])]
  split
  · next hend =>
    rw [Bool.or_eq_true, beq_iff_eq, List.isEmpty_iff] at hend
    rcases hend with rfl | hlast
    · rfl
    · -- the folder's own slash at the end is the one between the two
      obtain ⟨init, rfl⟩ := List.getLast?_eq_some_iff.1 hlast
      rw [List.append_assoc, List.singleton_append, steps_append_slash, steps_append_slash]
      show steps init ++ steps path = steps init ++ [] ++ steps path
      rw [List.append_nil]
  · exact steps_append_slash folder path

/-- A path seen from an anchored folder is anchored. -/
theorem isAnchored_append_path {folder : List Char} (h : isAnchored folder = true)
    (path : List Char) : isAnchored (append folder path) = true := by
  cases hpath : isAnchored path with
  | true => rw [append_of_isAnchored hpath, hpath]
  | false => rw [isAnchored_congr (anchor_append_path folder hpath), h]

/-- A relative path seen from a folder leads to a place with the folder's anchor. -/
theorem anchor_resolve_of_relative {path : String} (h : isAnchored (forward path.toList) = false)
    (folder : String) : anchor (resolve folder path).toList = anchor folder.toList := by
  rw [resolve, String.toList_ofList, anchor_normal, anchor_append_path _ h]

/-- The steps to that place are the folder's and then the path's, resolved. -/
theorem steps_resolve_of_relative {folder path : String} (absolute : isAnchored folder.toList = true)
    (h : isAnchored (forward path.toList) = false) :
    steps (resolve folder path).toList =
      collapse true (steps folder.toList ++ steps (forward path.toList)) := by
  rw [resolve, String.toList_ofList, steps_normal, isAnchored_append_path absolute,
    steps_append_path _ h]

/-- No step up is left on the way to what is seen from an anchored folder. -/
theorem up_not_mem_steps_resolve {folder : String} (absolute : isAnchored folder.toList = true)
    (path : String) : up ∉ steps (resolve folder path).toList := by
  rw [resolve, String.toList_ofList, steps_normal, isAnchored_append_path absolute]
  exact up_not_mem_collapse _

/-- Forward slashes stay as they are. -/
theorem forward_eq_self {cs : List Char} (h : '\\' ∉ cs) : forward cs = cs := by
  rw [forward]
  conv => rhs; rw [← List.map_id cs]
  apply List.map_congr_left
  intro c hc
  have hslash : c ≠ '\\' := fun heq => h (heq ▸ hc)
  rw [if_neg hslash, id]

/-- A path with forward slashes has no backslash. -/
theorem not_mem_forward (cs : List Char) : '\\' ∉ forward cs := by
  rw [forward, List.mem_map]
  intro h
  obtain ⟨c, _, hc⟩ := h
  split at hc
  · exact nomatch hc
  · next hslash => exact hslash hc

/-- A normal form has forward slashes only. -/
theorem forward_normalize (path : String) :
    forward (normalize path).toList = normal (forward path.toList) := by
  rw [normalize, String.toList_ofList]
  apply forward_eq_self
  intro h
  rcases mem_of_mem_normal h with hpath | hslash | hdot
  · exact not_mem_forward _ hpath
  · exact nomatch hslash
  · exact nomatch hdot

/-- A normal form is its own normal form. -/
theorem normalize_normalize (path : String) : normalize (normalize path) = normalize path := by
  rw [normalize, forward_normalize, normalize]
  apply congrArg String.ofList
  apply normal_congr (anchor_normal _)
  rw [isAnchored_congr (anchor_normal _), steps_normal, collapse_collapse]

/-- A relative path may be brought into normal form before it is seen from a folder. -/
theorem resolve_normalize {path : String} (h : isAnchored (forward path.toList) = false)
    (folder : String) : resolve folder (normalize path) = resolve folder path := by
  have hnormal : isAnchored (normal (forward path.toList)) = false := by
    rw [isAnchored_congr (anchor_normal _), h]
  have hanchor : anchor (append folder.toList (normal (forward path.toList))) =
      anchor (append folder.toList (forward path.toList)) := by
    rw [anchor_append_path _ hnormal, anchor_append_path _ h]
  rw [resolve, resolve, forward_normalize]
  apply congrArg String.ofList
  apply normal_congr hanchor
  rw [isAnchored_congr hanchor, steps_append_path _ hnormal, steps_append_path _ h,
    collapse_append, collapse_append, steps_normal, h, foldl_advance_collapse]

/-- A path that climbs out of the folder it is seen from is relative. -/
theorem isAnchored_of_climbs {path : String} (h : climbs path = true) :
    isAnchored (forward path.toList) = false := by
  rw [climbs, normalize, String.toList_ofList, hasPrefix, List.isPrefixOf_iff_prefix] at h
  obtain ⟨rest, hrest⟩ := h
  rw [← isAnchored_congr (anchor_normal _), ← hrest]
  rfl

end Path
end MakeAtlas
