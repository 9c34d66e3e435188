import MakeAtlas.Proofs.Path.Names
import MakeAtlas.Proofs.Workspace.Places

/-!
# Trees of named files and folders

What a disk can hold: no folder lists a name twice, and every name stands for itself in a path, so
that a path made of names tells which entry it leads to.

## Key results

- `IsTree.of_at?`: what names lead to is such a tree again
- `IsTree.isName_of_at?`: names that lead somewhere are plain
- `follow_eq_ok_iff`: following a path that never goes back is going by its names
-/

namespace MakeAtlas

namespace Entry

mutual

/-- Whether every name in the folders of an entry stands for itself in a path. -/
def plainNamed : Entry → Bool
  | .file _ => true
  | .folder children => allPlainNamed children

/-- Whether every name among and below some entries stands for itself in a path. -/
def allPlainNamed : List (String × Entry) → Bool
  | [] => true
  | (name, entry) :: rest => Path.isName name && plainNamed entry && allPlainNamed rest

end

/-- A tree of files and folders without links: no folder lists a name twice, and no name has a slash
    or a backslash in it or is one of the steps that name no entry. -/
structure IsTree (entry : Entry) : Prop where
  wellNamed : entry.wellNamed = true
  plainNamed : entry.plainNamed = true

instance (entry : Entry) : Decidable entry.IsTree :=
  decidable_of_iff (entry.wellNamed = true ∧ entry.plainNamed = true)
    ⟨fun h => ⟨h.1, h.2⟩, fun h => ⟨h.wellNamed, h.plainNamed⟩⟩

theorem allPlainNamed_eq_true_iff {children : List (String × Entry)} :
    allPlainNamed children = true ↔
      ∀ child ∈ children, Path.isName child.1 = true ∧ child.2.plainNamed = true := by
  induction children with
  | nil => simp [allPlainNamed]
  | cons child rest ih => simp [allPlainNamed, ih]

theorem isTree_folder_iff {children : List (String × Entry)} :
    (Entry.folder children).IsTree ↔
      (Table.keys children).Nodup ∧
        ∀ child ∈ children, Path.isName child.1 = true ∧ child.2.IsTree := by
  constructor
  · intro h
    obtain ⟨hnodup, hwell⟩ := wellNamed_folder_iff.1 h.wellNamed
    have hplain := allPlainNamed_eq_true_iff.1 h.plainNamed
    exact ⟨hnodup, fun child hchild =>
      ⟨(hplain child hchild).1, hwell child hchild, (hplain child hchild).2⟩⟩
  · rintro ⟨hnodup, hchildren⟩
    have hwell : ∀ child ∈ children, child.2.wellNamed = true := fun child hchild =>
      (hchildren child hchild).2.wellNamed
    have hplain : ∀ child ∈ children, Path.isName child.1 = true ∧ child.2.plainNamed = true :=
      fun child hchild => ⟨(hchildren child hchild).1, (hchildren child hchild).2.plainNamed⟩
    exact ⟨wellNamed_folder_iff.2 ⟨hnodup, hwell⟩, allPlainNamed_eq_true_iff.2 hplain⟩

namespace IsTree

theorem of_get? {children : List (String × Entry)} (h : (Entry.folder children).IsTree)
    {name : String} {entry : Entry} (hentry : Table.get? children name = some entry) :
    Path.isName name = true ∧ entry.IsTree :=
  (isTree_folder_iff.1 h).2 (name, entry) (Table.mem_of_get? hentry)

/-- In a tree, the entry under a name is the one that the folder lists under it. -/
theorem get?_eq_some_iff {children : List (String × Entry)} (h : (Entry.folder children).IsTree)
    {name : String} {entry : Entry} :
    Table.get? children name = some entry ↔ (name, entry) ∈ children :=
  Table.get?_eq_some_iff_mem (isTree_folder_iff.1 h).1

/-- The files below a folder are those below its entries. -/
theorem exists_file_folder_iff {children : List (String × Entry)}
    (h : (Entry.folder children).IsTree) {P : List String → Text.Utf8.Bytes → Prop} :
    (∃ path content, (Entry.folder children).at? path = some (.file content) ∧ P path content) ↔
      ∃ child ∈ children, ∃ below content, child.2.at? below = some (.file content) ∧
        P (child.1 :: below) content := by
  constructor
  · rintro ⟨path, content, hfile, hP⟩
    cases path with
    | nil => cases hfile
    | cons name below =>
      rw [at?_folder_cons, Option.bind_eq_some_iff] at hfile
      obtain ⟨entry, hentry, hfile⟩ := hfile
      exact ⟨(name, entry), h.get?_eq_some_iff.1 hentry, below, content, hfile, hP⟩
  · rintro ⟨child, hchild, below, content, hfile, hP⟩
    refine ⟨child.1 :: below, content, ?_, hP⟩
    rw [at?_folder_cons, h.get?_eq_some_iff.2 hchild, Option.bind_some, hfile]

/-- Names that lead somewhere are plain, and what they lead to is a tree again. -/
private theorem of_at?_and_isName {root entry : Entry} {path : List String} (h : root.IsTree)
    (hentry : root.at? path = some entry) :
    entry.IsTree ∧ ∀ name ∈ path, Path.isName name = true := by
  induction path generalizing root with
  | nil =>
    rw [at?_nil, Option.some.injEq] at hentry
    subst hentry
    exact ⟨h, fun _ hname => absurd hname List.not_mem_nil⟩
  | cons name path ih =>
    cases root with
    | file content => cases hentry
    | folder children =>
      rw [at?_folder_cons, Option.bind_eq_some_iff] at hentry
      obtain ⟨next, hnext, hentry⟩ := hentry
      obtain ⟨hname, htree⟩ := h.of_get? hnext
      obtain ⟨hfound, hnames⟩ := ih htree hentry
      exact ⟨hfound, List.forall_mem_cons.2 ⟨hname, hnames⟩⟩

theorem of_at? {root entry : Entry} {path : List String} (h : root.IsTree)
    (hentry : root.at? path = some entry) : entry.IsTree :=
  (of_at?_and_isName h hentry).1

theorem isName_of_at? {root entry : Entry} {path : List String} (h : root.IsTree)
    (hentry : root.at? path = some entry) : ∀ name ∈ path, Path.isName name = true :=
  (of_at?_and_isName h hentry).2

end IsTree

/-- Nothing is below a file. -/
theorem eq_nil_of_at?_file {root : Entry} {path more : List String} {content : Text.Utf8.Bytes}
    {entry : Entry} (hfile : root.at? path = some (.file content))
    (hentry : root.at? (path ++ more) = some entry) : more = [] := by
  rw [at?_append, hfile, Option.bind_some] at hentry
  cases more with
  | nil => rfl
  | cons name more => cases hentry

end Entry

/-! ## Following the names of a path -/

namespace Disk

/-- Following a path that never goes back is going by its names, if none of them is too long. -/
theorem follow_eq_ok_iff {steps : List String} (down : ".." ∉ steps) {parents : List Entry}
    {current entry : Entry} :
    follow parents current steps = .ok entry ↔
      (∀ step ∈ steps, step.utf8ByteSize ≤ maxNameBytes) ∧ current.at? steps = some entry := by
  induction steps generalizing parents current with
  | nil => simp [follow]
  | cons step steps ih =>
    rw [List.mem_cons, not_or] at down
    cases current with
    | file content => simp [follow, Entry.at?]
    | folder children =>
      rw [follow_folder_cons, if_neg (Ne.symm down.1), Entry.at?_folder_cons, List.forall_mem_cons,
        and_assoc]
      by_cases hlong : maxNameBytes < step.utf8ByteSize
      · rw [if_pos hlong]
        simp [Nat.not_le.2 hlong]
      · rw [if_neg hlong, and_iff_right (Nat.not_lt.1 hlong)]
        cases Table.get? children step with
        | none => simp
        | some next =>
          rw [Option.bind_some]
          exact ih down.2

end Disk

end MakeAtlas
