import MakeAtlas.Workspace.Walk
import MakeAtlas.Proofs.Workspace.Places
import Mathlib.Data.List.Forall2

/-!
# Folders that a walk cannot tell apart

A walk does not go down into folders with an excluded name, nor into folders with a Makefile of
their own. Two states of a folder are the same to it if they hold the same files and folders, apart
from what is inside of such folders. It does not matter in which order the folders list their
entries.

## Key results

- `sameFiles_iff_children`: what two such states have under each name
- `SameFiles.holdsMakefile_eq`: the states agree on where there are Makefiles
- `SameFiles.names_eq`: they list the same names
- `walk_eq_of_sameFiles`: a walk finds the same files in both
- `sameFiles_of_differOnlyAt`: what belongs to other folders may change
-/

namespace MakeAtlas

/-- Whether names lead to a folder with a Makefile of its own. -/
def Entry.holdsMakefileAt (entry : Entry) (path : List String) : Bool :=
  (entry.at? path).any fun found => Workspace.holdsMakefile found.children

namespace Workspace

/-! ## Going on from an entry -/

theorem at?_singleton {children : List (String × Entry)} {name : String} {entry : Entry}
    (h : Table.get? children name = some entry) :
    (Entry.folder children).at? [name] = some entry := by
  rw [Entry.at?_folder_cons, h, Option.bind_some, Entry.at?_nil]

theorem holdsMakefileAt_nil (entry : Entry) :
    entry.holdsMakefileAt [] = holdsMakefile entry.children := by
  rw [Entry.holdsMakefileAt, Entry.at?_nil, Option.any_some]

theorem holdsMakefileAt_append {root entry : Entry} {place : List String}
    (h : root.at? place = some entry) (path : List String) :
    root.holdsMakefileAt (place ++ path) = entry.holdsMakefileAt path := by
  rw [Entry.holdsMakefileAt, Entry.at?_append, h, Option.bind_some, Entry.holdsMakefileAt]

theorem face?_append {root entry : Entry} {place : List String} (h : root.at? place = some entry)
    (path : List String) : root.face? (place ++ path) = entry.face? path := by
  rw [Entry.face?, Entry.at?_append, h, Option.bind_some, Entry.face?]

/-! ## What is passed over in two states of a folder -/

/-- A path goes into a subfolder that is passed over in both states: one of an excluded name, or one
    that has a Makefile of its own in both. -/
def PassedOver (excluded : List String) (first second : Entry) (path : List String) : Prop :=
  ∃ above name below, path = above ++ name :: below ∧ below ≠ [] ∧
    (name ∈ excluded ∨ first.holdsMakefileAt (above ++ [name]) = true ∧
      second.holdsMakefileAt (above ++ [name]) = true)

/-- Two states of a folder hold the same files, with the same contents, and the same folders, apart
    from what is inside of subfolders that are passed over in both. -/
def SameFiles (excluded : List String) (first second : Entry) : Prop :=
  ∀ path, ¬ PassedOver excluded first second path → first.face? path = second.face? path

variable {excluded : List String}

theorem not_passedOver_singleton {first second : Entry} {name : String} :
    ¬ PassedOver excluded first second [name] := by
  rintro ⟨above, other, below, hpath, hbelow, -⟩
  rcases List.singleton_eq_append_iff.1 hpath with ⟨-, h⟩ | ⟨-, h⟩
  · exact hbelow (List.cons.inj h).2
  · cases h

/-- A path goes into a folder that is passed over if its first folder is one, or if it goes on into
    one from there. -/
theorem passedOver_cons_iff {first second : List (String × Entry)} {name : String} {a b : Entry}
    (hfirst : Table.get? first name = some a) (hsecond : Table.get? second name = some b)
    (path : List String) :
    PassedOver excluded (.folder first) (.folder second) (name :: path) ↔
      path ≠ [] ∧ (name ∈ excluded ∨
        holdsMakefile a.children = true ∧ holdsMakefile b.children = true) ∨
      PassedOver excluded a b path := by
  have hat₁ : ∀ more, (Entry.folder first).holdsMakefileAt (name :: more) =
      a.holdsMakefileAt more := holdsMakefileAt_append (at?_singleton hfirst)
  have hat₂ : ∀ more, (Entry.folder second).holdsMakefileAt (name :: more) =
      b.holdsMakefileAt more := holdsMakefileAt_append (at?_singleton hsecond)
  constructor
  · rintro ⟨above, other, below, hpath, hbelow, hpassed⟩
    cases above with
    | nil =>
      obtain ⟨rfl, rfl⟩ := List.cons.inj hpath
      rw [List.nil_append, hat₁, hat₂, holdsMakefileAt_nil, holdsMakefileAt_nil] at hpassed
      exact Or.inl ⟨hbelow, hpassed⟩
    | cons step above =>
      obtain ⟨rfl, rfl⟩ := List.cons.inj hpath
      rw [List.cons_append, hat₁, hat₂] at hpassed
      exact Or.inr ⟨above, other, below, rfl, hbelow, hpassed⟩
  · rintro (⟨hbelow, hpassed⟩ | ⟨above, other, below, rfl, hbelow, hpassed⟩)
    · refine ⟨[], name, path, rfl, hbelow, ?_⟩
      rw [List.nil_append, hat₁, hat₂, holdsMakefileAt_nil, holdsMakefileAt_nil]
      exact hpassed
    · refine ⟨name :: above, other, below, rfl, hbelow, ?_⟩
      rw [List.cons_append, hat₁, hat₂]
      exact hpassed

/-! ## Entry by entry -/

/-- What two states of a folder have under a name, as far as it matters: nothing, the same file, or
    folders that are passed over or hold the same files. -/
inductive SameEntry (excluded : List String) (name : String) : Option Entry → Option Entry → Prop
  | missing : SameEntry excluded name none none
  | file (content : Text.Utf8.Bytes) :
    SameEntry excluded name (some (.file content)) (some (.file content))
  | passedOver (a b : List (String × Entry)) :
    name ∈ excluded ∨ holdsMakefile a = true ∧ holdsMakefile b = true →
      SameEntry excluded name (some (.folder a)) (some (.folder b))
  | folder (a b : List (String × Entry)) : SameFiles excluded (.folder a) (.folder b) →
      SameEntry excluded name (some (.folder a)) (some (.folder b))

theorem face?_singleton (children : List (String × Entry)) (name : String) :
    (Entry.folder children).face? [name] = (Table.get? children name).map Entry.face := by
  rw [Entry.face?, Entry.at?_folder_cons]
  cases Table.get? children name with
  | none => rfl
  | some entry => rw [Option.bind_some, Entry.at?_nil]

theorem sameEntry_of_sameFiles {first second : List (String × Entry)}
    (h : SameFiles excluded (.folder first) (.folder second)) (name : String) :
    SameEntry excluded name (Table.get? first name) (Table.get? second name) := by
  have hface := h [name] not_passedOver_singleton
  rw [face?_singleton, face?_singleton] at hface
  cases hfirst : Table.get? first name with
  | none =>
    rw [hfirst, Option.map_none, eq_comm, Option.map_eq_none_iff] at hface
    rw [hface]
    exact .missing
  | some a =>
    rw [hfirst, Option.map_some, eq_comm, Option.map_eq_some_iff] at hface
    obtain ⟨b, hsecond, hab⟩ := hface
    rw [hsecond]
    cases a with
    | file content =>
      cases b with
      | file other =>
        cases hab
        exact .file content
      | folder inner => cases hab
    | folder a =>
      cases b with
      | file other => cases hab
      | folder b =>
        by_cases hpassed : name ∈ excluded ∨ holdsMakefile a = true ∧ holdsMakefile b = true
        · exact .passedOver a b hpassed
        · refine .folder a b fun path hpath => ?_
          rw [← face?_append (at?_singleton hfirst), ← face?_append (at?_singleton hsecond)]
          refine h (name :: path) fun hbelow => ?_
          rcases (passedOver_cons_iff hfirst hsecond path).1 hbelow with ⟨-, hhere⟩ | hthere
          · exact hpassed hhere
          · exact hpath hthere

/-- Two states of a folder are the same exactly if what they have under each name is. -/
theorem sameFiles_iff_children {first second : List (String × Entry)} :
    SameFiles excluded (.folder first) (.folder second) ↔
      ∀ name, SameEntry excluded name (Table.get? first name) (Table.get? second name) := by
  refine ⟨sameEntry_of_sameFiles, fun h path hpath => ?_⟩
  cases path with
  | nil => rfl
  | cons name path =>
    have hentry := h name
    rw [Entry.face?, Entry.face?, Entry.at?_folder_cons, Entry.at?_folder_cons]
    generalize hfirst : Table.get? first name = found₁ at hentry
    generalize hsecond : Table.get? second name = found₂ at hentry
    cases hentry with
    | missing => rfl
    | file content => rfl
    | passedOver a b hpassed =>
      cases path with
      | nil => rfl
      | cons next path =>
        -- the path goes into the folder
        exact absurd ((passedOver_cons_iff hfirst hsecond _).2
          (Or.inl ⟨List.cons_ne_nil next path, hpassed⟩)) hpath
    | folder a b hsame =>
      exact hsame path fun hthere =>
        hpath ((passedOver_cons_iff hfirst hsecond _).2 (Or.inr hthere))

namespace SameFiles

variable {first second : List (String × Entry)}

/-- Both states have a Makefile, or neither. -/
theorem holdsMakefile_eq (h : SameFiles excluded (.folder first) (.folder second)) :
    holdsMakefile first = holdsMakefile second := by
  have hentry := sameEntry_of_sameFiles h makefileName
  unfold holdsMakefile
  generalize Table.get? first makefileName = found₁ at hentry ⊢
  generalize Table.get? second makefileName = found₂ at hentry ⊢
  cases hentry <;> rfl

/-- Both states list the same names. -/
theorem names_eq (h : SameFiles excluded (.folder first) (.folder second))
    (hfirst : (Entry.folder first).wellNamed = true)
    (hsecond : (Entry.folder second).wellNamed = true) :
    Entry.names first = Entry.names second := by
  refine Entry.names_eq_of_has (Entry.wellNamed_folder_iff.1 hfirst).1
    (Entry.wellNamed_folder_iff.1 hsecond).1 fun name => ?_
  have hkeys : ∀ children : List (String × Entry),
      name ∈ Table.keys children ↔ ∃ entry, Table.get? children name = some entry := fun children =>
    ⟨Table.exists_get?_of_mem_keys, fun ⟨_, h⟩ => List.mem_map_of_mem (Table.mem_of_get? h)⟩
  have hentry := sameEntry_of_sameFiles h name
  rw [hkeys, hkeys]
  generalize Table.get? first name = found₁ at hentry ⊢
  generalize Table.get? second name = found₂ at hentry ⊢
  cases hentry <;> simp

end SameFiles

/-! ## Walks -/

/-- Two pending folders that are states of the same folder. -/
structure SamePending (excluded : List String) (x y : Pending) : Prop where
  steps_eq : x.steps = y.steps
  same : SameFiles excluded (.folder x.children) (.folder y.children)
  wellNamed_left : (Entry.folder x.children).wellNamed = true
  wellNamed_right : (Entry.folder y.children).wellNamed = true

section Walk

variable {rules : WalkRules} {x y : Pending}

/-- A walk yields the same files of two states of a folder. -/
theorem files_eq_of_same (h : SamePending rules.excludeDirs x y) :
    rules.files x = rules.files y := by
  unfold WalkRules.files
  rw [Entry.filterMap_sorted (Entry.wellNamed_folder_iff.1 h.wellNamed_left).1,
    Entry.filterMap_sorted (Entry.wellNamed_folder_iff.1 h.wellNamed_right).1,
    h.same.names_eq h.wellNamed_left h.wellNamed_right, h.steps_eq]
  refine List.filterMap_congr fun name _ => ?_
  have hentry := sameEntry_of_sameFiles h.same name
  generalize Table.get? x.children name = found₁ at hentry ⊢
  generalize Table.get? y.children name = found₂ at hentry ⊢
  cases hentry <;> rfl

/-- A walk goes down into the same subfolders of two states of a folder. -/
theorem forall₂_subfolders_of_same (h : SamePending rules.excludeDirs x y) :
    List.Forall₂ (SamePending rules.excludeDirs) (rules.subfolders x) (rules.subfolders y) := by
  unfold WalkRules.subfolders
  rw [Entry.filterMap_sorted (Entry.wellNamed_folder_iff.1 h.wellNamed_left).1,
    Entry.filterMap_sorted (Entry.wellNamed_folder_iff.1 h.wellNamed_right).1,
    h.same.names_eq h.wellNamed_left h.wellNamed_right, h.steps_eq]
  have hnames : List.Forall₂ Eq (Entry.names y.children) (Entry.names y.children) :=
    List.forall₂_refl _
  refine List.rel_filterMap ?_ hnames
  rintro name _ rfl
  have hentry := sameEntry_of_sameFiles h.same name
  beta_reduce
  generalize hfirst : Table.get? x.children name = found₁ at hentry ⊢
  generalize hsecond : Table.get? y.children name = found₂ at hentry ⊢
  -- only folders are gone down into
  cases hentry with
  | missing => exact .none
  | file content => exact .none
  | passedOver a b hpassed =>
    -- neither walk goes down, one way or the other
    have hskip : ∀ inner, name ∈ rules.excludeDirs ∨ holdsMakefile inner = true →
        rules.subfolder? y.steps (name, .folder inner) = none := by
      intro inner hinner
      rw [WalkRules.subfolder?, if_pos (by simpa using hinner)]
    rw [Option.bind_some, Option.bind_some, hskip a (hpassed.imp_right And.left),
      hskip b (hpassed.imp_right And.right)]
    exact .none
  | folder a b hsame =>
    rw [Option.bind_some, Option.bind_some, WalkRules.subfolder?, WalkRules.subfolder?,
      hsame.holdsMakefile_eq]
    split
    · exact .none
    · exact .some ⟨rfl, hsame, Entry.wellNamed_of_get? h.wellNamed_left hfirst,
        Entry.wellNamed_of_get? h.wellNamed_right hsecond⟩

/-- Walks through states of the same folders find the same files. -/
theorem walkFrom_eq_of_same {budget : Option Nat} {xs ys : List Pending}
    (h : List.Forall₂ (SamePending rules.excludeDirs) xs ys) :
    rules.walkFrom budget xs = rules.walkFrom budget ys := by
  induction budget, xs using WalkRules.walkFrom.induct rules generalizing ys with
  | case1 budget =>
    cases h
    rfl
  | case2 folder rest _ ih =>
    cases h with
    | cons hfolder hrest =>
      have hbelow := ih (List.rel_append (forall₂_subfolders_of_same hfolder) hrest)
      rw [WalkRules.walkFrom, WalkRules.walkFrom, files_eq_of_same hfolder, hbelow]
  | case3 folder rest =>
    rename_i n henough
    cases h with
    | cons hfolder hrest =>
      have henough : n ≤ (rules.files folder).length := henough
      rw [files_eq_of_same hfolder] at henough
      rw [WalkRules.walkFrom, WalkRules.walkFrom, files_eq_of_same hfolder, if_pos henough,
        if_pos henough]
  | case4 folder rest =>
    rename_i n hmore ih
    cases h with
    | cons hfolder hrest =>
      have hmore : ¬ n ≤ (rules.files folder).length := hmore
      have hbelow : ∀ other, List.Forall₂ _ _ other →
          rules.walkFrom (some (n - (rules.files folder).length))
              (rules.subfolders folder ++ rest) =
            rules.walkFrom (some (n - (rules.files folder).length)) other := fun _ => ih
      rw [files_eq_of_same hfolder] at hmore hbelow
      rw [WalkRules.walkFrom, WalkRules.walkFrom, files_eq_of_same hfolder, if_neg hmore,
        if_neg hmore, hbelow _ (List.rel_append (forall₂_subfolders_of_same hfolder) hrest)]

/-- A walk finds the same files, with the same contents and in the same order, in two states of a
    folder, however many files it may find. -/
theorem walk_eq_of_sameFiles {first second : List (String × Entry)}
    (h : SameFiles rules.excludeDirs (.folder first) (.folder second))
    (hfirst : (Entry.folder first).wellNamed = true)
    (hsecond : (Entry.folder second).wellNamed = true) (limit : Option Int) :
    rules.walk limit first = rules.walk limit second :=
  walkFrom_eq_of_same (.cons ⟨rfl, h, hfirst, hsecond⟩ .nil)

end Walk

/-! ## Changes in other folders -/

/-- A path leads to what belongs to the folder at a place: it goes below the place, and not into a
    subfolder that is passed over in both states. -/
def BelongsAt (excluded : List String) (root₁ root₂ : Entry) (place path : List String) : Prop :=
  ∃ below, path = place ++ below ∧ below ≠ [] ∧
    ∀ first second, root₁.at? place = some first → root₂.at? place = some second →
      ¬ PassedOver excluded first second below

/-- All differences between two states are in what belongs to the folders at some places. -/
def DifferOnlyAt (excluded : List String) (root₁ root₂ : Entry) (places : List (List String)) :
    Prop :=
  ∀ path, root₁.face? path ≠ root₂.face? path →
    ∃ place ∈ places, BelongsAt excluded root₁ root₂ place path

/-- What has a Makefile of its own is a folder. -/
theorem face_of_holdsMakefile {entry : Entry} (h : entry.holdsMakefileAt [] = true) :
    entry.face = .folder := by
  cases entry with
  | file content => cases h
  | folder children => rfl

/-- Whatever belongs to other folders may change: where all folders in question have Makefiles of
    their own, a folder stays the same when only what belongs to others differs. -/
theorem sameFiles_of_differOnlyAt {root₁ root₂ first second : Entry} {place : List String}
    {places : List (List String)} (differ : DifferOnlyAt excluded root₁ root₂ places)
    (other : place ∉ places)
    (own : ∀ q ∈ place :: places,
      root₁.holdsMakefileAt q = true ∧ root₂.holdsMakefileAt q = true)
    (hfirst : root₁.at? place = some first) (hsecond : root₂.at? place = some second) :
    SameFiles excluded first second := by
  intro path hpath
  by_contra hface
  rw [← face?_append hfirst, ← face?_append hsecond] at hface
  obtain ⟨q, hq, below, hsplit, hbelow, hpassed⟩ := differ _ hface
  have hne : place ≠ q := fun h => other (h ▸ hq)
  have hlast : ∀ between : List String, between ≠ [] → ∃ above name, between = above ++ [name] :=
    fun between h => ⟨between.dropLast, between.getLast h, (List.dropLast_concat_getLast h).symm⟩
  rcases List.append_eq_append_iff.1 hsplit with ⟨between, rfl, rfl⟩ | ⟨between, rfl, rfl⟩
  · -- the changed folder is below this one, and is passed over here
    obtain ⟨above, name, rfl⟩ := hlast between fun h => hne (by rw [h, List.append_nil])
    obtain ⟨hown₁, hown₂⟩ := own _ (List.mem_cons_of_mem _ hq)
    rw [holdsMakefileAt_append hfirst] at hown₁
    rw [holdsMakefileAt_append hsecond] at hown₂
    refine hpath ⟨above, name, below, ?_, hbelow, Or.inr ⟨hown₁, hown₂⟩⟩
    rw [List.append_assoc, List.singleton_append]
  · -- this folder is below the changed one, and is passed over there
    obtain ⟨above, name, rfl⟩ := hlast between fun h => hne (by rw [h, List.append_nil])
    obtain ⟨hown₁, hown₂⟩ := own _ List.mem_cons_self
    rw [Entry.at?_append, Option.bind_eq_some_iff] at hfirst hsecond
    obtain ⟨outer₁, houter₁, hfirst⟩ := hfirst
    obtain ⟨outer₂, houter₂, hsecond⟩ := hsecond
    rw [holdsMakefileAt_append houter₁] at hown₁
    rw [holdsMakefileAt_append houter₂] at hown₂
    refine hpassed outer₁ outer₂ houter₁ houter₂ ⟨above, name, path, ?_, ?_, Or.inr ⟨hown₁, hown₂⟩⟩
    · rw [List.append_assoc, List.singleton_append]
    · -- both states of this folder are folders
      rintro rfl
      refine hface ?_
      rw [List.append_nil, face?_append houter₁, face?_append houter₂, Entry.face?, Entry.face?,
        hfirst, hsecond, Option.map_some, Option.map_some]
      rw [← List.append_nil (above ++ [name]), holdsMakefileAt_append hfirst] at hown₁
      rw [← List.append_nil (above ++ [name]), holdsMakefileAt_append hsecond] at hown₂
      rw [face_of_holdsMakefile hown₁, face_of_holdsMakefile hown₂]

end Workspace

end MakeAtlas
