import MakeAtlas.Workspace.Disk
import MakeAtlas.Proofs.SameMembers
import Mathlib.Data.List.Basic

/-!
# What lies where

An entry of a disk is told by the names that lead to it. No folder has a name twice, so the order in
which a folder lists its entries does not matter to those who take them by name.

## Key results

- `at?_append`: names are followed one part after the other
- `filterMap_sorted`: what is made of the entries of a folder is made name by name
- `names_eq_of_has`: folders with the same names list them alike
- `follow_snoc`: the last step of a path leads to an entry of the folder before it
- `at?_of_follow`: following steps without `..` leads to the entry at these names
-/

namespace MakeAtlas

namespace Entry

/-! ## Entries by the names that lead to them -/

/-- What can be told of an entry without going into it. -/
inductive Face where
  | file (content : Text.Utf8.Bytes)
  | folder
  deriving DecidableEq

/-- The face of an entry. -/
def face : Entry → Face
  | .file content => .file content
  | .folder _ => .folder

/-- The entry to which names lead from an entry. -/
def at? : Entry → List String → Option Entry
  | entry, [] => some entry
  | .file _, _ :: _ => none
  | .folder children, name :: rest => (Table.get? children name).bind fun entry => entry.at? rest

/-- The face of the entry to which names lead. -/
def face? (entry : Entry) (path : List String) : Option Face :=
  (entry.at? path).map face

@[simp] theorem at?_nil (entry : Entry) : entry.at? [] = some entry := by
  cases entry <;> rfl

theorem at?_folder_cons (children : List (String × Entry)) (name : String) (rest : List String) :
    (Entry.folder children).at? (name :: rest) =
      (Table.get? children name).bind fun entry => entry.at? rest := rfl

theorem at?_append (entry : Entry) (path more : List String) :
    entry.at? (path ++ more) = (entry.at? path).bind fun found => found.at? more := by
  induction path generalizing entry with
  | nil => rw [List.nil_append, at?_nil, Option.bind_some]
  | cons name path ih =>
    cases entry with
    | file content => rfl
    | folder children =>
      rw [List.cons_append, at?_folder_cons, at?_folder_cons, Option.bind_assoc]
      exact Option.bind_congr fun found _ => ih found

theorem face?_eq_file_iff {entry : Entry} {path : List String} {content : Text.Utf8.Bytes} :
    entry.face? path = some (.file content) ↔ entry.at? path = some (.file content) := by
  rw [face?]
  cases entry.at? path with
  | none => simp
  | some found => cases found <;> simp [face]

/-- In which order a folder lists its entries, each name once, has no say in what lies where. -/
theorem face?_eq_of_perm {children reordered : List (String × Entry)}
    (perm : children.Perm reordered) (nodup : (Table.keys children).Nodup) (path : List String) :
    (Entry.folder children).face? path = (Entry.folder reordered).face? path := by
  cases path with
  | nil => rw [face?, face?, at?_nil, at?_nil, Option.map_some, Option.map_some, face, face]
  | cons name rest =>
    rw [face?, face?, at?_folder_cons, at?_folder_cons, Table.get?_perm perm nodup]

/-- What lies below an entry is reached by way of one of the entry's own names. -/
theorem mem_keys_of_at? {entry found : Entry} {name : String} {rest : List String}
    (h : entry.at? (name :: rest) = some found) : name ∈ Table.keys entry.children := by
  cases entry with
  | file content => cases h
  | folder children =>
    obtain ⟨inner, hinner, -⟩ := Option.bind_eq_some_iff.1 h
    exact List.mem_map_of_mem (Table.mem_of_get? hinner)

/-! ## Folders that list each name once -/

mutual

/-- Whether no folder of an entry lists a name twice. -/
def wellNamed : Entry → Bool
  | .file _ => true
  | .folder children => decide (Table.keys children).Nodup && allWellNamed children

/-- Whether no folder of some entries lists a name twice. -/
def allWellNamed : List (String × Entry) → Bool
  | [] => true
  | (_, entry) :: rest => wellNamed entry && allWellNamed rest

end

theorem allWellNamed_eq_true_iff {children : List (String × Entry)} :
    allWellNamed children = true ↔ ∀ child ∈ children, child.2.wellNamed = true := by
  induction children with
  | nil => simp [allWellNamed]
  | cons child rest ih => simp [allWellNamed, ih]

theorem wellNamed_folder_iff {children : List (String × Entry)} :
    (Entry.folder children).wellNamed = true ↔
      (Table.keys children).Nodup ∧ ∀ child ∈ children, child.2.wellNamed = true := by
  rw [wellNamed, Bool.and_eq_true, decide_eq_true_eq, allWellNamed_eq_true_iff]

theorem wellNamed_of_get? {children : List (String × Entry)}
    (h : (Entry.folder children).wellNamed = true) {name : String} {entry : Entry}
    (hentry : Table.get? children name = some entry) : entry.wellNamed = true :=
  (wellNamed_folder_iff.1 h).2 (name, entry) (Table.mem_of_get? hentry)

/-! ## Entries in order -/

/-- The names in a folder, in order. -/
def names (children : List (String × Entry)) : List String :=
  Table.keys (sorted children)

theorem pairwise_names (children : List (String × Entry)) :
    (names children).Pairwise fun a b => a ≤ b := by
  rw [names, Table.keys, List.pairwise_map]
  exact pairwise_mergeSort_key Prod.fst children

/-- Folders with the same names list them alike once they are in order. -/
theorem names_eq_of_has {first second : List (String × Entry)} (hfirst : (Table.keys first).Nodup)
    (hsecond : (Table.keys second).Nodup)
    (same : ∀ name, name ∈ Table.keys first ↔ name ∈ Table.keys second) :
    names first = names second := by
  have hperm : (names first).Perm (names second) :=
    ((sorted_perm first).map Prod.fst).trans
      (((List.perm_ext_iff_of_nodup hfirst hsecond).2 same).trans
        ((sorted_perm second).map Prod.fst).symm)
  exact eq_of_perm_of_pairwise_names hperm (pairwise_names first) (pairwise_names second)

/-- What is made of the entries of a folder in order is made name by name, of the entry under each
    name. -/
theorem filterMap_sorted {α : Type} {children : List (String × Entry)}
    (h : (Table.keys children).Nodup) (f : String × Entry → Option α) :
    (sorted children).filterMap f =
      (names children).filterMap fun name =>
        (Table.get? children name).bind fun entry => f (name, entry) := by
  rw [names, Table.keys, List.filterMap_map]
  refine List.filterMap_congr fun entry hentry => ?_
  have hfound : Table.get? children entry.1 = some entry.2 :=
    (Table.get?_eq_some_iff_mem h).2 ((sorted_perm children).subset hentry)
  rw [Function.comp_apply, hfound, Option.bind_some]

end Entry

/-! ## Following steps -/

namespace Disk

theorem follow_folder_cons (parents : List Entry) (children : List (String × Entry)) (step : String)
    (steps : List String) :
    follow parents (.folder children) (step :: steps) =
      if step = ".." then
        match parents with
        | [] => follow [] (.folder children) steps
        | parent :: above => follow above parent steps
      else if maxNameBytes < step.utf8ByteSize then .error .nameTooLong
      else
        match Table.get? children step with
        | none => .error .notFound
        | some entry => follow (.folder children :: parents) entry steps := by
  cases parents <;> rfl

/-- The last step of a path leads to an entry of the folder before it. -/
theorem follow_snoc {name : String} (hname : name ≠ "..")
    (hshort : ¬ maxNameBytes < name.utf8ByteSize) (parents : List Entry) (current : Entry)
    (steps : List String) :
    follow parents current (steps ++ [name]) =
      match follow parents current steps with
      | .ok (.folder children) =>
        match Table.get? children name with
        | some entry => .ok entry
        | none => .error .notFound
      | .ok (.file _) => .error .notFolder
      | .error fault => .error fault := by
  induction steps generalizing parents current with
  | nil =>
    cases current with
    | file content => rfl
    | folder children =>
      simp only [List.nil_append, follow, if_neg hname, if_neg hshort]
      cases Table.get? children name <;> rfl
  | cons step steps ih =>
    cases current with
    | file content => rfl
    | folder children =>
      rw [List.cons_append, follow_folder_cons, follow_folder_cons]
      -- the first step goes back, is too long, or leads to an entry of the folder
      split
      · cases parents with
        | nil => exact ih [] _
        | cons parent above => exact ih above parent
      · split
        · rfl
        · cases Table.get? children step with
          | none => rfl
          | some entry => exact ih _ entry

/-- What is found by following steps is as well named as what the steps lead through. -/
theorem wellNamed_of_follow {parents : List Entry} {current found : Entry} {steps : List String}
    (hparents : ∀ parent ∈ parents, parent.wellNamed = true) (hcurrent : current.wellNamed = true)
    (h : follow parents current steps = .ok found) : found.wellNamed = true := by
  induction steps generalizing parents current with
  | nil =>
    cases h
    exact hcurrent
  | cons step steps ih =>
    cases current with
    | file content => cases h
    | folder children =>
      rw [follow_folder_cons] at h
      split at h
      -- going back leads to a folder that was passed, or stays at the root
      · cases parents with
        | nil => exact ih hparents hcurrent h
        | cons parent above =>
          exact ih (fun other hother => hparents other (List.mem_cons_of_mem _ hother))
            (hparents parent List.mem_cons_self) h
      · split at h
        · cases h
        · cases hentry : Table.get? children step with
          | none =>
            rw [hentry] at h
            cases h
          | some entry =>
            rw [hentry] at h
            refine ih ?_ (Entry.wellNamed_of_get? hcurrent hentry) h
            intro other hother
            rcases List.mem_cons.1 hother with rfl | hother
            · exact hcurrent
            · exact hparents other hother

/-- Steps that do not go back lead to the entry at these names. -/
theorem at?_of_follow {parents : List Entry} {current found : Entry} {steps : List String}
    (hdown : ".." ∉ steps) (h : follow parents current steps = .ok found) :
    current.at? steps = some found := by
  induction steps generalizing parents current with
  | nil =>
    cases h
    exact Entry.at?_nil _
  | cons step steps ih =>
    rw [List.mem_cons, not_or] at hdown
    cases current with
    | file content => cases h
    | folder children =>
      rw [follow_folder_cons, if_neg (Ne.symm hdown.1)] at h
      split at h
      · cases h
      · cases hentry : Table.get? children step with
        | none =>
          rw [hentry] at h
          cases h
        | some entry =>
          rw [hentry] at h
          rw [Entry.at?_folder_cons, hentry, Option.bind_some]
          exact ih hdown.2 h

end Disk

end MakeAtlas
