import MakeAtlas.Proofs.Workspace.NamedTree
import MakeAtlas.Proofs.Workspace.SameFiles

/-!
# Which files a walk yields

A walk keeps a stack of folders that it still has to visit. What it yields can be told without the
stack: the files with an admitted name to which names lead from the walked folder, on a way that
goes into no folder that is passed over. A walk that is cut short yields the first of them.

## Key results

- `yields_iff`: one visit: the files of the folder, and what is left to the subfolders
- `mem_walkFrom_iff`: all visits: a walk yields what can be reached in the pending folders
- `mem_walk_iff`: the files of a folder that a walk yields
- `walkFrom_some_eq_take`: a walk that is cut short
- `walk_isPrefix_of_le`: a limit that is raised, or taken away, adds files at the end only
- `reaches_of_mem_walk`: whatever the limit, a walk yields nothing else
-/

namespace MakeAtlas.Workspace

/-! ## Makefiles on the way -/

theorem holdsMakefile_iff {children : List (String × Entry)} :
    holdsMakefile children = true ↔
      ∃ content, Table.get? children makefileName = some (.file content) := by
  unfold holdsMakefile
  cases Table.get? children makefileName with
  | none => simp
  | some entry => cases entry <;> simp

/-- A folder has a Makefile of its own if one more name leads to it. -/
theorem holdsMakefileAt_iff {entry : Entry} {path : List String} :
    entry.holdsMakefileAt path = true ↔
      ∃ content, entry.at? (path ++ [makefileName]) = some (.file content) := by
  rw [Entry.holdsMakefileAt, Entry.at?_append]
  cases entry.at? path with
  | none => simp
  | some found =>
    rw [Option.any_some, Option.bind_some, holdsMakefile_iff]
    cases found with
    | file content => simp [Entry.children, Entry.at?, Table.get?]
    | folder children =>
      refine exists_congr fun content => ?_
      rw [Entry.children, Entry.at?_folder_cons, Option.bind_eq_some_iff]
      simp

/-- What keeps a walk from a file: the name of a folder on the way, or a Makefile in one. -/
theorem passedOver_iff {folder : Entry} {excluded path : List String}
    {content : Text.Utf8.Bytes} (file : folder.at? path = some (.file content)) :
    PassedOver excluded folder folder path ↔
      (∃ name ∈ path.dropLast, name ∈ excluded) ∨
        ∃ between, between ≠ [] ∧ between <+: path ∧ folder.holdsMakefileAt between = true := by
  constructor
  · rintro ⟨above, name, below, rfl, hbelow, hexcluded | ⟨hmakefile, -⟩⟩
    · refine Or.inl ⟨name, ?_, hexcluded⟩
      rw [List.dropLast_append_cons, List.dropLast_cons_of_ne_nil hbelow]
      exact List.mem_append_right _ List.mem_cons_self
    · refine Or.inr ⟨above ++ [name], by simp, ⟨below, ?_⟩, hmakefile⟩
      rw [List.append_assoc, List.singleton_append]
  · rintro (⟨name, hname, hexcluded⟩ | ⟨between, hbetween, ⟨below, hbelow⟩, hmakefile⟩)
    · obtain ⟨above, rest, hsplit⟩ := List.append_of_mem hname
      have hpath : path ≠ [] := by
        rintro rfl
        cases hname
      have hlast := List.dropLast_concat_getLast hpath
      rw [hsplit, List.append_assoc, List.cons_append] at hlast
      exact ⟨above, name, rest ++ [path.getLast hpath], hlast.symm, by simp, Or.inl hexcluded⟩
    · obtain ⟨above, name, rfl⟩ : ∃ above name, between = above ++ [name] :=
        ⟨between.dropLast, between.getLast hbetween, (List.dropLast_concat_getLast hbetween).symm⟩
      refine ⟨above, name, below, ?_, ?_, Or.inr ⟨hmakefile, hmakefile⟩⟩
      · rw [← hbelow, List.append_assoc, List.singleton_append]
      · -- a file holds no Makefile
        rintro rfl
        obtain ⟨found, hfound⟩ := holdsMakefileAt_iff.1 hmakefile
        rw [List.append_nil] at hbelow
        rw [hbelow] at hfound
        exact absurd (Entry.eq_nil_of_at?_file file hfound) (List.cons_ne_nil _ _)

/-! ## What can be reached -/

/-- A walk can reach a file: names lead to it, the last one is admitted, and the others do not go
    into a folder that is passed over. -/
structure WalkRules.Reaches (rules : WalkRules) (folder : Entry) (path : List String)
    (content : Text.Utf8.Bytes) : Prop where
  isFile : folder.at? path = some (.file content)
  admitted : ∃ name ∈ path.getLast?, rules.admits name = true
  notPassedOver : ¬ PassedOver rules.excludeDirs folder folder path

variable {rules : WalkRules}

/-- What can be reached in a folder is one of its files, or can be reached in one of its subfolders
    that is not passed over. -/
theorem reaches_folder_iff {children : List (String × Entry)} {path : List String}
    {content : Text.Utf8.Bytes} :
    rules.Reaches (.folder children) path content ↔
      (∃ name, path = [name] ∧ Table.get? children name = some (.file content) ∧
        rules.admits name = true) ∨
      ∃ name below inner, path = name :: below ∧ Table.get? children name = some (.folder inner) ∧
        name ∉ rules.excludeDirs ∧ holdsMakefile inner = false ∧
        rules.Reaches (.folder inner) below content := by
  constructor
  · rintro ⟨hfile, ⟨last, hlast, hadmits⟩, hopen⟩
    cases path with
    | nil => cases hlast
    | cons name below =>
      rw [Entry.at?_folder_cons, Option.bind_eq_some_iff] at hfile
      obtain ⟨entry, hentry, hfile⟩ := hfile
      rw [passedOver_cons_iff hentry hentry, not_or, and_self] at hopen
      cases entry with
      | file found =>
        -- the way ends at a file
        have hbelow : below = [] := Entry.eq_nil_of_at?_file (Entry.at?_nil (.file found)) hfile
        subst hbelow
        rw [Entry.at?_nil, Option.some.injEq] at hfile
        rw [hfile] at hentry
        rw [List.getLast?_singleton, Option.mem_some_iff] at hlast
        exact Or.inl ⟨name, rfl, hentry, hlast ▸ hadmits⟩
      | folder inner =>
        have hbelow : below ≠ [] := by
          rintro rfl
          rw [Entry.at?_nil] at hfile
          cases hfile
        have hlast : last ∈ below.getLast? := by
          rwa [List.getLast?_cons_of_ne_nil hbelow] at hlast
        -- the way goes on into the subfolder, so it is not passed over
        obtain ⟨hhere, hthere⟩ := hopen
        rw [not_and, not_or, Entry.children, Bool.not_eq_true] at hhere
        obtain ⟨hname, hmakefile⟩ := hhere hbelow
        exact Or.inr ⟨name, below, inner, rfl, hentry, hname, hmakefile,
          ⟨hfile, ⟨last, hlast, hadmits⟩, hthere⟩⟩
  · rintro (⟨name, rfl, hentry, hadmits⟩ |
      ⟨name, below, inner, rfl, hentry, hname, hmakefile, hfile, ⟨last, hlast, hadmits⟩, hopen⟩)
    · exact ⟨at?_singleton hentry, ⟨name, rfl, hadmits⟩, not_passedOver_singleton⟩
    · have hbelow : below ≠ [] := by
        rintro rfl
        cases hlast
      refine ⟨?_, ⟨last, ?_, hadmits⟩, ?_⟩
      · rw [Entry.at?_folder_cons, hentry, Option.bind_some, hfile]
      · rwa [List.getLast?_cons_of_ne_nil hbelow]
      · rw [passedOver_cons_iff hentry hentry, not_or, and_self, Entry.children]
        refine ⟨?_, hopen⟩
        rintro ⟨-, hexcluded | hholds⟩
        · exact hname hexcluded
        · rw [hmakefile] at hholds
          cases hholds

/-! ## One visit -/

/-- What is left to a pending folder: the files that can be reached in it. -/
def Pending.Yields (rules : WalkRules) (x : Pending) (f : FoundFile) : Prop :=
  ∃ below, f.steps = x.steps ++ below ∧ rules.Reaches (.folder x.children) below f.content

variable {x y : Pending} {f : FoundFile}

theorem mem_files_iff (h : (Entry.folder x.children).wellNamed = true) :
    f ∈ rules.files x ↔ ∃ name, f.steps = x.steps ++ [name] ∧
      Table.get? x.children name = some (.file f.content) ∧ rules.admits name = true := by
  have hnodup := (Entry.wellNamed_folder_iff.1 h).1
  rw [WalkRules.files, List.mem_filterMap]
  constructor
  · rintro ⟨⟨name, entry⟩, hmem, hf⟩
    have hentry := (Table.get?_eq_some_iff_mem hnodup).2
      ((Entry.sorted_perm x.children).subset hmem)
    cases entry with
    | folder inner => cases hf
    | file content =>
      dsimp only at hf
      split at hf
      · next hadmits =>
        cases hf
        exact ⟨name, rfl, hentry, hadmits⟩
      · cases hf
  · rintro ⟨name, hsteps, hentry, hadmits⟩
    have hmem := (Entry.sorted_perm x.children).mem_iff.2 (Table.mem_of_get? hentry)
    refine ⟨(name, .file f.content), hmem, ?_⟩
    dsimp only
    rw [if_pos hadmits, ← hsteps]

theorem mem_subfolders_iff (h : (Entry.folder x.children).wellNamed = true) :
    y ∈ rules.subfolders x ↔ ∃ name, y.steps = x.steps ++ [name] ∧
      Table.get? x.children name = some (.folder y.children) ∧ name ∉ rules.excludeDirs ∧
      holdsMakefile y.children = false := by
  have hnodup := (Entry.wellNamed_folder_iff.1 h).1
  have hskip : ∀ name (inner : List (String × Entry)),
      (rules.excludeDirs.contains name || holdsMakefile inner) = false ↔
        name ∉ rules.excludeDirs ∧ holdsMakefile inner = false := by
    intro name inner
    simp
  rw [WalkRules.subfolders, List.mem_filterMap]
  constructor
  · rintro ⟨⟨name, entry⟩, hmem, hy⟩
    have hentry := (Table.get?_eq_some_iff_mem hnodup).2
      ((Entry.sorted_perm x.children).subset hmem)
    cases entry with
    | file content => cases hy
    | folder inner =>
      rw [WalkRules.subfolder?] at hy
      split at hy
      · cases hy
      · next hopen =>
        cases hy
        exact ⟨name, rfl, hentry, (hskip name inner).1 (Bool.eq_false_iff.2 hopen)⟩
  · rintro ⟨name, hsteps, hentry, hopen⟩
    have hmem := (Entry.sorted_perm x.children).mem_iff.2 (Table.mem_of_get? hentry)
    refine ⟨(name, .folder y.children), hmem, ?_⟩
    rw [WalkRules.subfolder?, if_neg (Bool.eq_false_iff.1 ((hskip name y.children).2 hopen)),
      ← hsteps]

/-- One visit yields the files of the folder, and leaves the rest to the subfolders. -/
theorem yields_iff (h : (Entry.folder x.children).wellNamed = true) :
    x.Yields rules f ↔ f ∈ rules.files x ∨ ∃ y ∈ rules.subfolders x, y.Yields rules f := by
  rw [mem_files_iff h]
  constructor
  · rintro ⟨below, hsteps, hreaches⟩
    rcases reaches_folder_iff.1 hreaches with
      ⟨name, rfl, hentry, hadmits⟩ | ⟨name, more, inner, rfl, hentry, hname, hmakefile, hmore⟩
    · exact Or.inl ⟨name, hsteps, hentry, hadmits⟩
    · have hmem : ⟨x.steps ++ [name], inner⟩ ∈ rules.subfolders x :=
        (mem_subfolders_iff h).2 ⟨name, rfl, hentry, hname, hmakefile⟩
      refine Or.inr ⟨_, hmem, more, ?_, hmore⟩
      rw [hsteps, List.append_assoc, List.singleton_append]
  · rintro (⟨name, hsteps, hentry, hadmits⟩ | ⟨y, hy, below, hsteps, hreaches⟩)
    · exact ⟨[name], hsteps, reaches_folder_iff.2 (Or.inl ⟨name, rfl, hentry, hadmits⟩)⟩
    · obtain ⟨name, hyx, hentry, hname, hmakefile⟩ := (mem_subfolders_iff h).1 hy
      refine ⟨name :: below, ?_, reaches_folder_iff.2
        (Or.inr ⟨name, below, y.children, rfl, hentry, hname, hmakefile, hreaches⟩)⟩
      rw [hsteps, hyx, List.append_assoc, List.singleton_append]

/-- Subfolders are as well named as the folder they are in. -/
theorem wellNamed_of_mem_subfolders (h : (Entry.folder x.children).wellNamed = true)
    (hy : y ∈ rules.subfolders x) : (Entry.folder y.children).wellNamed = true := by
  obtain ⟨_, _, hentry, _⟩ := (mem_subfolders_iff h).1 hy
  exact Entry.wellNamed_of_get? h hentry

/-! ## All visits -/

/-- A walk without a limit yields what can be reached in the pending folders. -/
theorem mem_walkFrom_iff {pending : List Pending}
    (h : ∀ x ∈ pending, (Entry.folder x.children).wellNamed = true) :
    f ∈ rules.walkFrom none pending ↔ ∃ x ∈ pending, x.Yields rules f := by
  -- the budget is a variable, as the cases of the recursion have one
  generalize hbudget : (none : Option Nat) = budget
  induction budget, pending using WalkRules.walkFrom.induct rules with
  | case1 budget => simp [WalkRules.walkFrom]
  | case2 folder rest _ ih =>
    rw [List.forall_mem_cons] at h
    have hpending : ∀ x ∈ rules.subfolders folder ++ rest,
        (Entry.folder x.children).wellNamed = true :=
      List.forall_mem_append.2 ⟨fun y hy => wellNamed_of_mem_subfolders h.1 hy, h.2⟩
    rw [WalkRules.walkFrom, List.mem_append, ih hpending rfl]
    simp only [List.mem_append, List.mem_cons, or_and_right, exists_or, exists_eq_left]
    rw [yields_iff h.1, or_assoc]
  | case3 => cases hbudget
  | case4 => cases hbudget

/-- A walk that is cut short yields the first files of the walk that is not. -/
theorem walkFrom_some_eq_take (n : Nat) (pending : List Pending) :
    rules.walkFrom (some n) pending = (rules.walkFrom none pending).take n := by
  generalize hbudget : some n = budget
  induction budget, pending using WalkRules.walkFrom.induct rules generalizing n with
  | case1 budget => simp [WalkRules.walkFrom]
  | case2 => cases hbudget
  | case3 folder rest =>
    rename_i m henough
    cases hbudget
    -- the files of the folder are enough
    have henough : m ≤ (rules.files folder).length := henough
    rw [WalkRules.walkFrom, WalkRules.walkFrom, if_pos henough,
      List.take_append_of_le_length henough]
  | case4 folder rest =>
    rename_i m hmore ih
    cases hbudget
    -- what they leave of the budget is for the other folders
    have hmore : ¬ m ≤ (rules.files folder).length := hmore
    have hrest : rules.walkFrom (some (m - (rules.files folder).length))
        (rules.subfolders folder ++ rest) =
        (rules.walkFrom none (rules.subfolders folder ++ rest)).take
          (m - (rules.files folder).length) := ih _ rfl
    rw [WalkRules.walkFrom, WalkRules.walkFrom, if_neg hmore, hrest, List.take_append,
      List.take_of_length_le (Nat.le_of_not_le hmore)]

/-! ## Walks through a folder -/

variable {children : List (String × Entry)}

/-- A walk without a limit yields the files that can be reached in the folder. -/
theorem mem_walk_iff (h : (Entry.folder children).wellNamed = true) :
    f ∈ rules.walk none children ↔ rules.Reaches (.folder children) f.steps f.content := by
  rw [WalkRules.walk, Option.map_none, mem_walkFrom_iff (List.forall_mem_singleton.2 h)]
  simp [Pending.Yields]

/-- A walk with a lower limit yields the first files of a walk with a higher limit, or none. -/
theorem walk_isPrefix_of_le (rules : WalkRules) {n : Int} {limit : Option Int}
    (h : ∀ m ∈ limit, n ≤ m) (children : List (String × Entry)) :
    rules.walk (some n) children <+: rules.walk limit children := by
  rw [WalkRules.walk, WalkRules.walk, Option.map_some, walkFrom_some_eq_take]
  cases limit with
  | none => exact List.take_prefix _ _
  | some m =>
    have hle : n ≤ m := h m rfl
    rw [Option.map_some, walkFrom_some_eq_take]
    exact List.take_prefix_take_left (by omega)

/-- Whatever its limit, a walk yields only files that can be reached in the folder. -/
theorem reaches_of_mem_walk (h : (Entry.folder children).wellNamed = true) {limit : Option Int}
    (hf : f ∈ rules.walk limit children) : rules.Reaches (.folder children) f.steps f.content := by
  rw [← mem_walk_iff h]
  cases limit with
  | none => exact hf
  | some n =>
    rw [WalkRules.walk, Option.map_some, walkFrom_some_eq_take] at hf
    exact List.mem_of_mem_take hf

end MakeAtlas.Workspace
