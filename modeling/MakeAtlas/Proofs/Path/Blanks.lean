import MakeAtlas.Proofs.Path.Names

/-!
# Paths without the blanks around them

Some checks look at a path without the blanks around it. A path that is made of names is another
one without them if its first name begins with a blank: a file below a root is then no longer below
it.

## Key results

- `trim_eq_trimLeft`: a text that does not end with a blank is only cut at the front
- `belongsTo_eq_not_losesRoot`: when a file below a root still belongs to it without blanks
- `losesRoot_eq_false`: nothing is lost if the first name does not begin with a blank
-/

namespace MakeAtlas

open MakeAtlas.Text (isBlank trim)

/-! ## Texts without blanks -/

/-- Whether a text begins with a blank. -/
def Text.beginsBlank (text : String) : Bool :=
  text.toList.head?.any isBlank

namespace Text

theorem trimLeft_ne_nil {cs : List Char} (h : ∃ c ∈ cs.getLast?, isBlank c = false) :
    trimLeft cs ≠ [] := by
  obtain ⟨c, hlast, hc⟩ := h
  intro hnil
  have hblank := List.dropWhile_eq_nil_iff.1 hnil c (List.mem_of_getLast? hlast)
  rw [hc] at hblank
  cases hblank

/-- A text that does not end with a blank is only cut at the front. -/
theorem trim_eq_trimLeft {cs : List Char} (h : ∃ c ∈ cs.getLast?, isBlank c = false) :
    trim cs = trimLeft cs := by
  have hne := trimLeft_ne_nil h
  obtain ⟨c, hlast, hc⟩ := h
  -- the last character is among what is left, so nothing is cut behind it
  have hsplit : cs.takeWhile isBlank ++ trimLeft cs = cs := List.takeWhile_append_dropWhile
  apply dropEndWhile_eq_self
  intro d hd
  rw [← hsplit, List.getLast?_append_of_ne_nil _ hne] at hlast
  rw [← Option.some.inj (hlast.symm.trans hd), hc]

/-- Something is left of a text that does not end with a blank. -/
theorem isEmpty_trim {cs : List Char} (h : ∃ c ∈ cs.getLast?, isBlank c = false) :
    (String.ofList (trim cs)).isEmpty = false := by
  rw [trim_eq_trimLeft h, String.isEmpty_eq_false_iff]
  intro hempty
  have hnil := congrArg String.toList hempty
  rw [String.toList_ofList] at hnil
  exact trimLeft_ne_nil h hnil

/-- A text that neither begins nor ends with a blank is left as it is. -/
theorem trim_eq_of_not_beginsBlank {text : String} (hfirst : beginsBlank text = false)
    (hlast : ∃ c ∈ text.toList.getLast?, isBlank c = false) : trim text.toList = text.toList := by
  refine trim_eq_self (fun c hc => ?_) fun c hc => ?_
  · rw [beginsBlank, hc] at hfirst
    exact hfirst
  · obtain ⟨d, hd, hend⟩ := hlast
    rw [← Option.some.inj (hd.symm.trans hc), hend]

/-- What is left of a text does not begin with a blank. -/
theorem head?_trimLeft {cs : List Char} {c : Char} (h : c ∈ (trimLeft cs).head?) :
    isBlank c = false := by
  have hnot := List.head?_dropWhile_not isBlank cs
  rw [show (cs.dropWhile isBlank).head? = some c from h] at hnot
  exact hnot

end Text

/-! ## Paths without blanks -/

namespace Path

variable {names more : List String}

/-- A path that is made of names goes down only. -/
theorem climbs_joined (h : ∀ n ∈ names, isName n = true) (hne : names ≠ []) :
    climbs (joined names) = false := by
  rw [climbs, normalize_joined h, rootText_of_ne_nil hne, Bool.eq_false_iff]
  intro hprefix
  obtain ⟨rest, hrest⟩ := List.isPrefixOf_iff_prefix.1 hprefix
  have hsteps := steps_joined h
  have htext : (joined names).toList = up ++ '/' :: rest := hrest.symm
  rw [htext, steps_append_slash] at hsteps
  have hup : up ∈ names.map String.toList := by
    rw [← hsteps]
    exact List.mem_append_left _ List.mem_cons_self
  exact up_not_mem_map h hup

/-- Whether a file below a root is no longer below it, once the blanks at the front of the file's
    path are dropped: the root begins with one of them, or, at the workspace itself, what is left
    climbs out. -/
def losesRoot (root file : String) : Bool :=
  if root = "." then climbs (String.ofList (trim file.toList)) else Text.beginsBlank root

/-- Without blanks around its path, a file below a root belongs to it unless the root is lost. -/
theorem belongsTo_eq_not_losesRoot (hnames : ∀ n ∈ names, isName n = true) (hne : more ≠ [])
    (hlast : ∃ c ∈ (joined (names ++ more)).toList.getLast?, isBlank c = false) :
    belongsTo (String.ofList (trim (joined (names ++ more)).toList)) (rootText names) =
      !losesRoot (rootText names) (joined (names ++ more)) := by
  rw [belongsTo, isWorkspaceRoot_rootText hnames, losesRoot]
  by_cases hroot : names = []
  · -- all that does not climb out belongs to the workspace itself
    subst hroot
    rw [List.nil_append, rootText_nil, if_pos rfl, decide_eq_true rfl, if_pos rfl]
  · have hdot : rootText names ≠ "." := by
      intro hdot
      exact hroot (rootText_injective hnames (fun _ hn => absurd hn List.not_mem_nil) hdot)
    rw [decide_eq_false hroot, if_neg Bool.false_ne_true, if_neg hdot, rootText_of_ne_nil hroot]
    obtain ⟨c, cs, hcs⟩ := List.exists_cons_of_ne_nil (toList_joined_ne_nil hnames hroot)
    have hslash := dropEndWhile_joined hnames hroot
    have hfile : (joined (names ++ more)).toList =
        (joined names).toList ++ '/' :: (joined more).toList := by
      rw [joined_append hroot hne, String.toList_append, String.toList_append, List.append_assoc]
      rfl
    have hbegins : Text.beginsBlank (joined names) = isBlank c := by
      rw [Text.beginsBlank, hcs]
      rfl
    rw [hslash, hbegins]
    cases hblank : isBlank c with
    | false =>
      -- nothing is dropped, and the file is below the root
      have hplain : Text.beginsBlank (joined (names ++ more)) = false := by
        rw [Text.beginsBlank, hfile, hcs]
        exact hblank
      have htrim := Text.trim_eq_of_not_beginsBlank hplain hlast
      have hprefix : Text.hasPrefix ((joined names).toList ++ ['/'])
          (joined (names ++ more)).toList = true := by
        rw [Text.hasPrefix, List.isPrefixOf_iff_prefix, hfile]
        exact ⟨(joined more).toList, by rw [List.append_assoc]; rfl⟩
      rw [htrim, String.ofList_toList, hprefix, Bool.or_true]
      rfl
    | true =>
      -- what is left begins with another character than the root
      have hother : ∀ rest, Text.trimLeft (joined (names ++ more)).toList ≠ c :: rest := by
        intro rest hrest
        have hhead : c ∈ (Text.trimLeft (joined (names ++ more)).toList).head? := by
          rw [hrest]
          rfl
        have hc := Text.head?_trimLeft hhead
        rw [hblank] at hc
        cases hc
      rw [Text.trim_eq_trimLeft hlast, Bool.not_true, Bool.or_eq_false_iff]
      constructor
      · rw [beq_eq_false_iff_ne]
        intro heq
        apply hother cs
        rw [← hcs, ← heq, String.toList_ofList]
      · rw [Bool.eq_false_iff]
        intro hprefix
        obtain ⟨rest, hrest⟩ := List.isPrefixOf_iff_prefix.1 hprefix
        rw [hcs, String.toList_ofList] at hrest
        exact hother _ hrest.symm

/-- Where some steps are written, the first one begins the text. -/
theorem head?_joinSteps {step : List Char} (h : step ≠ []) (rest : List (List Char)) :
    (joinSteps (step :: rest)).head? = step.head? := by
  cases rest with
  | nil => rfl
  | cons next rest => rw [joinSteps_cons_cons, List.head?_append_of_ne_nil _ h]

/-- A path that is made of names begins as its first name does. -/
theorem beginsBlank_joined {name : String} (h : isName name = true) (rest : List String) :
    Text.beginsBlank (joined (name :: rest)) = Text.beginsBlank name := by
  rw [Text.beginsBlank, toList_joined, List.map_cons, head?_joinSteps (isStep_of_isName h).ne_nil,
    Text.beginsBlank]

/-- A path that is made of names ends as its last name does. -/
theorem getLast?_toList_joined {name : String} (h : isName name = true) (names : List String) :
    (joined (names ++ [name])).toList.getLast? = name.toList.getLast? := by
  have hone : joined [name] = name := String.intercalate_singleton
  by_cases hnames : names = []
  · rw [hnames, List.nil_append, hone]
  · rw [joined_append hnames (List.cons_ne_nil name []), hone, String.toList_append,
      List.getLast?_append_of_ne_nil _ (isStep_of_isName h).ne_nil]

/-- A root is not lost if the first name on the way to the file does not begin with a blank. -/
theorem losesRoot_eq_false (hnames : ∀ n ∈ names, isName n = true)
    (hmore : ∀ n ∈ more, isName n = true) (hne : more ≠ [])
    (hlast : ∃ c ∈ (joined (names ++ more)).toList.getLast?, isBlank c = false)
    (hfirst : ∀ n ∈ (names ++ more).head?, Text.beginsBlank n = false) :
    losesRoot (rootText names) (joined (names ++ more)) = false := by
  rw [losesRoot]
  cases names with
  | nil =>
    obtain ⟨name, rest, rfl⟩ := List.exists_cons_of_ne_nil hne
    have hbegins : Text.beginsBlank (joined (name :: rest)) = false := by
      rw [beginsBlank_joined (hmore name List.mem_cons_self)]
      exact hfirst name rfl
    -- nothing is cut off, and a path that is made of names does not climb
    have htrim := Text.trim_eq_of_not_beginsBlank hbegins hlast
    rw [rootText_nil, if_pos rfl, List.nil_append, htrim, String.ofList_toList,
      climbs_joined hmore hne]
  | cons name rest =>
    have hdot : rootText (name :: rest) ≠ "." := by
      intro hdot
      have hnil := rootText_injective hnames (fun _ hn => absurd hn List.not_mem_nil) hdot
      cases hnil
    rw [if_neg hdot, rootText_of_ne_nil (List.cons_ne_nil _ _),
      beginsBlank_joined (hnames name List.mem_cons_self)]
    exact hfirst name rfl

end Path

end MakeAtlas
