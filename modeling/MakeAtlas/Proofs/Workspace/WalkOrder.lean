import MakeAtlas.Proofs.Workspace.Walking
import Mathlib.Data.List.Nodup
import Mathlib.Logic.Function.Iterate

/-!
# The order of a walk

A walk keeps a stack of folders. What it yields can be told by recursion on the tree: the files of a
folder in the order of their names, then what each of its subfolders holds, in the order of their
names. At any time, what has been yielded and what the pending folders hold make up the whole; every
visit leaves less to visit, so that the stack gets empty, and then the whole has been yielded. A
walk that is cut short yields the first files of the whole.

## Key results

- `preorder_eq`: what a folder holds is what one visit yields, and what the subfolders hold
- `whole_visit`, `whole_iterate_visit`: one visit, and any number of them, keeps the whole
- `pending_iterate_visit`: the stack gets empty
- `walkFrom_eq_flatMap_preorder`: a walk yields what the pending folders hold
- `nodup_preorder`: a folder holds each file once
- `walks_in_preorder`: all of it, for a folder
-/

namespace MakeAtlas.Workspace

/-! ## What a folder holds -/

/-- There is less in a subfolder than in the folder. -/
theorem countAll_lt_of_mem {children inner : List (String × Entry)} {name : String}
    (h : (name, Entry.folder inner) ∈ children) :
    Entry.countAll inner < Entry.countAll children := by
  induction children with
  | nil => cases h
  | cons child rest ih =>
    obtain ⟨first, entry⟩ := child
    rw [Entry.countAll]
    rcases List.mem_cons.1 h with hsame | hrest
    · cases hsame
      rw [Entry.count]
      omega
    · have := ih hrest
      omega

/-- What a folder at some steps holds for a walk: the files in it with an admitted name, in the
order of their names, then what each of its subfolders holds, in the order of their names, unless
the subfolder's name is excluded or it has a Makefile of its own. -/
def WalkRules.preorder (rules : WalkRules) (steps : List String)
    (children : List (String × Entry)) : List FoundFile :=
  ((Entry.sorted children).filterMap fun (name, entry) =>
    match entry with
    | .file content => if rules.admits name then some ⟨steps ++ [name], content⟩ else none
    | .folder _ => none) ++
  (Entry.sorted children).attach.flatMap fun
    | ⟨(_, .file _), _⟩ => []
    | ⟨(name, .folder inner), h⟩ =>
      have := countAll_lt_of_mem ((Entry.sorted_perm children).subset h)
      if name ∈ rules.excludeDirs ∨ holdsMakefile inner = true then []
      else rules.preorder (steps ++ [name]) inner
termination_by Entry.countAll children

variable {rules : WalkRules} {x y : Pending} {f : FoundFile}

/-- What a folder holds is what one visit yields of it, and what those of its subfolders hold that
the walk goes down into. -/
theorem preorder_eq (rules : WalkRules) (x : Pending) :
    rules.preorder x.steps x.children =
      rules.files x ++ (rules.subfolders x).flatMap fun y => rules.preorder y.steps y.children := by
  rw [WalkRules.preorder, WalkRules.files, WalkRules.subfolders]
  refine congrArg (_ ++ ·) ?_
  -- what each entry adds, whether it is a file, a folder that is passed over, or another folder
  rw [List.filterMap_eq_flatMap_toList, List.flatMap_assoc]
  conv => rhs; rw [← List.unattach_attach (l := Entry.sorted x.children)]
  refine List.flatMap_subtype ?_
  rintro ⟨name, entry⟩ -
  cases entry with
  | file content => rfl
  | folder inner =>
    dsimp only [WalkRules.subfolder?]
    by_cases hskip : name ∈ rules.excludeDirs ∨ holdsMakefile inner = true
    · rw [if_pos hskip, if_pos (by simpa using hskip)]
      rfl
    · rw [if_neg hskip, if_neg (by simpa using hskip)]
      simp

/-! ## Visits -/

/-- How far a walk has come: the files it has yielded, and the folders it still has to visit, the
next one first. -/
structure Progress where
  yielded : List FoundFile := []
  pending : List Pending

/-- One visit: the next folder yields its files and makes way for its subfolders. -/
def WalkRules.visit (rules : WalkRules) (p : Progress) : Progress :=
  match p.pending with
  | [] => p
  | folder :: rest => ⟨p.yielded ++ rules.files folder, rules.subfolders folder ++ rest⟩

/-- What has been yielded, and what the pending folders hold. -/
def WalkRules.whole (rules : WalkRules) (p : Progress) : List FoundFile :=
  p.yielded ++ p.pending.flatMap fun x => rules.preorder x.steps x.children

/-- A visit keeps the whole. -/
theorem whole_visit (rules : WalkRules) (p : Progress) :
    rules.whole (rules.visit p) = rules.whole p := by
  obtain ⟨yielded, pending⟩ := p
  cases pending with
  | nil => rfl
  | cons folder rest =>
    simp only [WalkRules.whole, WalkRules.visit, List.flatMap_append, List.flatMap_cons,
      preorder_eq rules folder, List.append_assoc]

/-- Any number of visits keeps the whole. -/
theorem whole_iterate_visit (rules : WalkRules) (n : Nat) (p : Progress) :
    rules.whole (rules.visit^[n] p) = rules.whole p := by
  induction n generalizing p with
  | zero => rfl
  | succ n ih => rw [Function.iterate_succ_apply, ih, whole_visit]

/-- After as many visits as there are files and folders to come across, no folder is pending. -/
theorem pending_iterate_visit (rules : WalkRules) {n : Nat} {p : Progress}
    (h : weight p.pending ≤ n) : (rules.visit^[n] p).pending = [] := by
  induction n generalizing p with
  | zero =>
    obtain ⟨yielded, pending⟩ := p
    cases pending with
    | nil => rfl
    | cons folder rest =>
      rw [weight] at h
      omega
  | succ n ih =>
    rw [Function.iterate_succ_apply]
    apply ih
    obtain ⟨yielded, pending⟩ := p
    cases pending with
    | nil => exact Nat.zero_le n
    | cons folder rest =>
      have hless := weight_subfolders_lt rules folder rest
      exact Nat.le_of_lt_succ (Nat.lt_of_lt_of_le hless h)

/-- A walk yields what the pending folders hold. -/
theorem walkFrom_eq_flatMap_preorder (rules : WalkRules) (pending : List Pending) :
    rules.walkFrom none pending = pending.flatMap fun x => rules.preorder x.steps x.children := by
  generalize hbudget : (none : Option Nat) = budget
  induction budget, pending using WalkRules.walkFrom.induct rules with
  | case1 budget => simp [WalkRules.walkFrom]
  | case2 folder rest _ ih =>
    rw [WalkRules.walkFrom, ih rfl, List.flatMap_append, List.flatMap_cons,
      preorder_eq rules folder, List.append_assoc]
  | case3 => cases hbudget
  | case4 => cases hbudget

theorem walk_eq_preorder (rules : WalkRules) (children : List (String × Entry)) :
    rules.walk none children = rules.preorder [] children := by
  rw [WalkRules.walk, Option.map_none, walkFrom_eq_flatMap_preorder, List.flatMap_singleton]

/-- The visits of a walk end with the files of the walk. -/
theorem iterate_visit_eq (rules : WalkRules) {n : Nat} {pending : List Pending}
    (h : weight pending ≤ n) :
    rules.visit^[n] { pending } = ⟨rules.walkFrom none pending, []⟩ := by
  have hend := pending_iterate_visit rules (p := { pending }) h
  have hwhole := whole_iterate_visit rules n { pending }
  rw [WalkRules.whole, hend, List.flatMap_nil, List.append_nil, WalkRules.whole,
    List.nil_append, ← walkFrom_eq_flatMap_preorder] at hwhole
  rw [← hwhole, ← hend]

/-! ## Each file once -/

/-- What a folder holds is what is left to it when it is pending. -/
theorem mem_preorder_iff (h : (Entry.folder x.children).wellNamed = true) :
    f ∈ rules.preorder x.steps x.children ↔ x.Yields rules f := by
  have hwalk : f ∈ rules.walkFrom none [x] ↔ ∃ y ∈ [x], y.Yields rules f :=
    mem_walkFrom_iff (List.forall_mem_singleton.2 h)
  rw [walkFrom_eq_flatMap_preorder, List.flatMap_singleton] at hwalk
  simpa using hwalk

/-- No two entries of a folder have one name. -/
private theorem pairwise_sorted (h : (Entry.folder x.children).wellNamed = true) :
    (Entry.sorted x.children).Pairwise fun a b => a.1 ≠ b.1 := by
  have hnodup := (Entry.wellNamed_folder_iff.1 h).1
  rw [Table.keys, ← ((Entry.sorted_perm x.children).map Prod.fst).nodup_iff] at hnodup
  exact List.pairwise_map.1 hnodup

/-- The files of one folder have different steps. -/
private theorem nodup_files (h : (Entry.folder x.children).wellNamed = true) :
    ((rules.files x).map FoundFile.steps).Nodup := by
  rw [WalkRules.files, List.nodup_iff_pairwise_ne, List.pairwise_map, List.pairwise_filterMap]
  refine (pairwise_sorted h).imp ?_
  rintro ⟨name, entry⟩ ⟨other, entry'⟩ hne f hf g hg hsame
  cases entry with
  | folder inner => cases hf
  | file content =>
    cases entry' with
    | folder inner => cases hg
    | file content' =>
      simp only [Option.ite_none_right_eq_some, Option.some.injEq] at hf hg
      obtain ⟨-, rfl⟩ := hf
      obtain ⟨-, rfl⟩ := hg
      exact hne (by simpa using hsame)

/-- The subfolders of one folder have different steps. -/
private theorem pairwise_subfolders (h : (Entry.folder x.children).wellNamed = true) :
    (rules.subfolders x).Pairwise fun y z => y.steps ≠ z.steps := by
  rw [WalkRules.subfolders, List.pairwise_filterMap]
  refine (pairwise_sorted h).imp ?_
  rintro ⟨name, entry⟩ ⟨other, entry'⟩ hne y hy z hz hsame
  cases entry with
  | file content => cases hy
  | folder inner =>
    cases entry' with
    | file content => cases hz
    | folder inner' =>
      simp only [WalkRules.subfolder?, Option.ite_none_left_eq_some, Option.some.injEq] at hy hz
      obtain ⟨-, rfl⟩ := hy
      obtain ⟨-, rfl⟩ := hz
      exact hne (by simpa using hsame)

/-- The steps of a file that a folder holds go on from those of the folder. -/
private theorem exists_below_of_mem_preorder (h : (Entry.folder x.children).wellNamed = true)
    (hf : f ∈ rules.preorder x.steps x.children) :
    ∃ below, below ≠ [] ∧ f.steps = x.steps ++ below := by
  obtain ⟨below, hsteps, hreaches⟩ := (mem_preorder_iff h).1 hf
  refine ⟨below, ?_, hsteps⟩
  rintro rfl
  obtain ⟨last, hlast, -⟩ := hreaches.admitted
  cases hlast

/-- A subfolder is one of the folder's entries, under the last of its steps. -/
private theorem exists_entry_of_mem_subfolders (h : (Entry.folder x.children).wellNamed = true)
    (hy : y ∈ rules.subfolders x) : ∃ name, y.steps = x.steps ++ [name] ∧
      (name, Entry.folder y.children) ∈ x.children := by
  obtain ⟨name, hsteps, hentry, -⟩ := (mem_subfolders_iff h).1 hy
  exact ⟨name, hsteps, Table.mem_of_get? hentry⟩

/-- Two subfolders of one folder hold no file together. -/
private theorem disjoint_preorder {z : Pending} (h : (Entry.folder x.children).wellNamed = true)
    (hy : y ∈ rules.subfolders x) (hz : z ∈ rules.subfolders x) (hne : y.steps ≠ z.steps) :
    ((rules.preorder y.steps y.children).map FoundFile.steps).Disjoint
      ((rules.preorder z.steps z.children).map FoundFile.steps) := by
  intro steps hs ht
  obtain ⟨f, hf, rfl⟩ := List.mem_map.1 hs
  obtain ⟨g, hg, hsame⟩ := List.mem_map.1 ht
  obtain ⟨below, -, hf⟩ := exists_below_of_mem_preorder (wellNamed_of_mem_subfolders h hy) hf
  obtain ⟨below', -, hg⟩ := exists_below_of_mem_preorder (wellNamed_of_mem_subfolders h hz) hg
  obtain ⟨name, hy, -⟩ := exists_entry_of_mem_subfolders h hy
  obtain ⟨name', hz, -⟩ := exists_entry_of_mem_subfolders h hz
  -- behind the steps of the folder, the next one tells the subfolder
  rw [hf, hg, hy, hz, List.append_assoc, List.append_assoc, List.append_cancel_left_eq] at hsame
  cases hsame
  exact hne (hy.trans hz.symm)

/-- A folder holds each file once. -/
theorem nodup_preorder (rules : WalkRules) (x : Pending)
    (h : (Entry.folder x.children).wellNamed = true) :
    ((rules.preorder x.steps x.children).map FoundFile.steps).Nodup := by
  rw [preorder_eq, List.map_append, List.nodup_append, List.map_flatMap, List.nodup_flatMap]
  refine ⟨nodup_files h, ⟨?_, ?_⟩, ?_⟩
  · intro y hy
    obtain ⟨name, -, hentry⟩ := exists_entry_of_mem_subfolders h hy
    have := countAll_lt_of_mem hentry
    exact nodup_preorder rules y (wellNamed_of_mem_subfolders h hy)
  · refine (pairwise_subfolders h).imp_of_mem fun {y z} hy hz hne => ?_
    exact disjoint_preorder h hy hz hne
  · -- the files of the folder itself have one step more than it, those below have two or more
    intro steps hs other ho hsame
    obtain ⟨f, hf, rfl⟩ := List.mem_map.1 hs
    obtain ⟨y, hy, hy'⟩ := List.mem_flatMap.1 ho
    obtain ⟨g, hg, rfl⟩ := List.mem_map.1 hy'
    obtain ⟨name, hfile, -⟩ := (mem_files_iff h).1 hf
    obtain ⟨below, hbelow, hg⟩ :=
      exists_below_of_mem_preorder (wellNamed_of_mem_subfolders h hy) hg
    obtain ⟨name', hy, -⟩ := exists_entry_of_mem_subfolders h hy
    rw [hfile, hg, hy, List.append_assoc, List.append_cancel_left_eq] at hsame
    cases hsame
    exact hbelow rfl
termination_by Entry.countAll x.children

/-! ## Walks through a folder -/

/-- What a walk through a folder yields, and that it comes to an end. -/
structure WalksInPreorder (rules : WalkRules) (children : List (String × Entry)) : Prop where
  /-- The visits come to an end: all files have been yielded, and no folder is pending. -/
  ends : ∀ n, Entry.countAll children < n →
    rules.visit^[n] { pending := [⟨[], children⟩] } = ⟨rules.walk none children, []⟩
  /-- The files are those that the folder holds, in that order, -/
  listed : rules.walk none children = rules.preorder [] children
  /-- and none of them is yielded twice. -/
  once : ((rules.walk none children).map FoundFile.steps).Nodup
  /-- A walk that is cut short yields the first of them. -/
  cutShort : ∀ n : Int, 1 ≤ n →
    rules.walk (some n) children = (rules.preorder [] children).take n.toNat
  /-- The order in which folders list their entries does not matter. -/
  anyOrder : ∀ reordered, (Entry.folder reordered).wellNamed = true →
    (∀ names, (Entry.folder children).face? names = (Entry.folder reordered).face? names) →
    ∀ limit, rules.walk limit reordered = rules.walk limit children

variable {children : List (String × Entry)}

/-- A walk through any folder, in which no folder lists a name twice, yields what the folder
holds. -/
theorem walks_in_preorder (rules : WalkRules) (h : (Entry.folder children).wellNamed = true) :
    WalksInPreorder rules children where
  ends n hn := by
    have hweight : weight [⟨[], children⟩] ≤ n := by
      simp only [weight]
      omega
    exact iterate_visit_eq rules hweight
  listed := walk_eq_preorder rules children
  once := by
    rw [walk_eq_preorder]
    exact nodup_preorder rules ⟨[], children⟩ h
  cutShort n hn := by
    have hlimit : max 1 n.toNat = n.toNat := by omega
    rw [WalkRules.walk, Option.map_some, hlimit, walkFrom_some_eq_take, ← walk_eq_preorder,
      WalkRules.walk, Option.map_none]
  anyOrder reordered hreordered same limit :=
    (walk_eq_of_sameFiles (fun path _ => same path) h hreordered limit).symm

/-- Rules for a walk through sources in C that leaves out build products. -/
def sourceRules : WalkRules :=
  ⟨[".c", ".h"], ["build"]⟩

/-- The sources of the project below, in the order in which their folder lists them. -/
def thicketSources : List (String × Entry) :=
  [("b.c", .file []), ("a.h", .file [])]

/-- A project with sources in a subfolder, a folder of build products, and a project in it. -/
def thicket : List (String × Entry) :=
  [("src", .folder thicketSources), ("plugin", .folder [("Makefile", .file []), ("p.c", .file [])]),
    ("main.c", .file []), ("build", .folder [("b.c", .file [])])]

private theorem sorted_thicket : Entry.sorted thicket =
    [("build", .folder [("b.c", .file [])]), ("main.c", .file []),
      ("plugin", .folder [("Makefile", .file []), ("p.c", .file [])]),
      ("src", .folder thicketSources)] := by
  simp [Entry.sorted, thicket, List.mergeSort]

private theorem sorted_thicketSources : Entry.sorted thicketSources =
    [("a.h", .file []), ("b.c", .file [])] := by
  simp [Entry.sorted, thicketSources, List.mergeSort]

private theorem preorder_thicket : sourceRules.preorder [] thicket =
    [⟨["main.c"], []⟩, ⟨["src", "a.h"], []⟩, ⟨["src", "b.c"], []⟩] := by
  have hfiles : sourceRules.files ⟨[], thicket⟩ = [⟨["main.c"], []⟩] := by
    rw [WalkRules.files, sorted_thicket]
    decide +kernel
  have hsubfolders : sourceRules.subfolders ⟨[], thicket⟩ = [⟨["src"], thicketSources⟩] := by
    rw [WalkRules.subfolders, sorted_thicket]
    rfl
  have hsources : sourceRules.files ⟨["src"], thicketSources⟩ =
      [⟨["src", "a.h"], []⟩, ⟨["src", "b.c"], []⟩] := by
    rw [WalkRules.files, sorted_thicketSources]
    decide +kernel
  have hnone : sourceRules.subfolders ⟨["src"], thicketSources⟩ = [] := by
    rw [WalkRules.subfolders, sorted_thicketSources]
    rfl
  have hbelow := preorder_eq sourceRules ⟨["src"], thicketSources⟩
  rw [hsources, hnone] at hbelow
  have hall := preorder_eq sourceRules ⟨[], thicket⟩
  rw [hfiles, hsubfolders, List.flatMap_singleton, hbelow] at hall
  exact hall

/-- The project's walk yields the file in its folder and then those in the subfolder, whose order is
not that of the listing; two files are enough for a walk that is cut short. -/
theorem walks_in_preorder_thicket :
    (Entry.folder thicket).wellNamed = true ∧ (Entry.folder thicket.reverse).wellNamed = true ∧
      sourceRules.visit^[10] { pending := [⟨[], thicket⟩] } =
        ⟨[⟨["main.c"], []⟩, ⟨["src", "a.h"], []⟩, ⟨["src", "b.c"], []⟩], []⟩ ∧
      sourceRules.walk (some 2) thicket = [⟨["main.c"], []⟩, ⟨["src", "a.h"], []⟩] ∧
      sourceRules.walk (some 2) thicket.reverse = sourceRules.walk (some 2) thicket := by
  have h : (Entry.folder thicket).wellNamed = true := by decide +kernel
  have hreverse : (Entry.folder thicket.reverse).wellNamed = true := by decide +kernel
  have hsame := Entry.face?_eq_of_perm (List.reverse_perm thicket).symm
    (Entry.wellNamed_folder_iff.1 h).1
  have hwalks := walks_in_preorder sourceRules h
  refine ⟨h, hreverse, ?_, ?_, hwalks.anyOrder _ hreverse hsame _⟩
  · rw [hwalks.ends 10 (by decide), hwalks.listed, preorder_thicket]
  · rw [hwalks.cutShort 2 (by decide), preorder_thicket]
    rfl

end MakeAtlas.Workspace
