import MakeAtlas.Proofs.Workspace.Written
import MakeAtlas.Workspace.Contents

/-!
# What is in other files

Two disks of the same shape have the same files and folders; what is in the files may be different.
A path leads to entries of the same kind on both. What is read at a path is then the same as soon as
the file at the path's own place is: no other file has a say in it.

## Key results

- `map_isFile_follow`: steps lead to entries of the same kind, or fail alike
- `contentsOf_eq_of_sameShape`, `readText_eq_of_sameShape`: only the file itself has a say in what
  is read
-/

namespace MakeAtlas.Disk

/-- Two trees have the same files and folders; what is in the files may be different. -/
def SameShape (root root' : Entry) : Prop :=
  ∀ names, (root.at? names).map Entry.isFile = (root'.at? names).map Entry.isFile

/-- Folders in the same place have entries of the same kind under each name. -/
private theorem map_isFile_get? {root root' : Entry} {trail : List String}
    {parents parents' : List Entry} {children children' : List (String × Entry)}
    (same : SameShape root root') (stands : StandsAt root trail parents (.folder children))
    (stands' : StandsAt root' trail parents' (.folder children')) (name : String) :
    (Table.get? children name).map Entry.isFile = (Table.get? children' name).map Entry.isFile := by
  have hbelow := same (trail.reverse ++ [name])
  rw [Entry.at?_append, Entry.at?_append, stands.at?_eq, stands'.at?_eq, Option.bind_some,
    Option.bind_some, Entry.at?_folder_cons, Entry.at?_folder_cons] at hbelow
  simpa using hbelow

/-- In trees of the same shape, steps lead to entries of the same kind, or fail alike. -/
theorem map_isFile_follow {root root' current current' : Entry} {trail : List String}
    {parents parents' : List Entry} (same : SameShape root root')
    (stands : StandsAt root trail parents current)
    (stands' : StandsAt root' trail parents' current') (names : List String) :
    (follow parents current names).map Entry.isFile =
      (follow parents' current' names).map Entry.isFile := by
  have hkind : current.isFile = current'.isFile := by
    have hhere := same trail.reverse
    rw [stands.at?_eq, stands'.at?_eq] at hhere
    exact Option.some.inj hhere
  induction names generalizing trail parents parents' current current' with
  | nil => exact congrArg Except.ok hkind
  | cons name names ih =>
    cases current with
    | file content =>
      cases current' with
      | file content' => rfl
      | folder children' => cases hkind
    | folder children =>
      cases current' with
      | file content' => cases hkind
      | folder children' =>
        rw [follow_folder_cons, follow_folder_cons]
        -- the step goes back, is too long, or leads to an entry of the folder
        split
        · cases stands with
          | start =>
            cases stands' with
            | start => exact ih .start .start rfl
          | down above found =>
            cases stands' with
            | down above' found' => exact ih above above' rfl
        · split
          · rfl
          · have hentries := map_isFile_get? same stands stands' name
            cases hentry : Table.get? children name with
            | none =>
              rw [hentry, Option.map_none, eq_comm, Option.map_eq_none_iff] at hentries
              rw [hentries]
            | some entry =>
              rw [hentry, Option.map_some, eq_comm, Option.map_eq_some_iff] at hentries
              obtain ⟨entry', hentry', hsame⟩ := hentries
              rw [hentry']
              exact ih (.down stands hentry) (.down stands' hentry') hsame.symm

section Read

private theorem map_mapError {ε δ α β : Type} (f : ε → δ) (g : α → β) (result : Except ε α) :
    (result.mapError f).map g = (result.map g).mapError f := by
  cases result <;> rfl

variable {disk other : Disk} {folder path : String}

/-- On disks of the same shape, a path leads to entries of the same kind, or fails alike. -/
theorem map_isFile_find (same : SameShape (.folder disk.root) (.folder other.root)) :
    (disk.find folder path).map Entry.isFile = (other.find folder path).map Entry.isFile := by
  unfold find
  split
  · rfl
  · split
    · rfl
    · rw [map_mapError, map_mapError, map_isFile_follow same .start .start]

/-- On disks of the same shape, only the file at the place of a path has a say in what is read
there. -/
theorem contentsOf_eq_of_sameShape (same : SameShape (.folder disk.root) (.folder other.root))
    (own : (Entry.folder disk.root).face? (place folder path) =
      (Entry.folder other.root).face? (place folder path)) :
    disk.contentsOf folder path = other.contentsOf folder path := by
  have hkind : (disk.find folder path).map Entry.isFile =
      (other.find folder path).map Entry.isFile := map_isFile_find same
  unfold contentsOf
  cases hfind : disk.find folder path with
  | error e =>
    cases hfind' : other.find folder path with
    | error e' =>
      rw [hfind, hfind'] at hkind
      cases hkind
      rfl
    | ok found' =>
      rw [hfind, hfind'] at hkind
      cases hkind
  | ok found =>
    cases hfind' : other.find folder path with
    | error e' =>
      rw [hfind, hfind'] at hkind
      cases hkind
    | ok found' =>
      -- both are at the place of the path, where the disks agree
      have hface : found.face = found'.face := by
        rw [Entry.face?, Entry.face?, at?_place_of_follow (find_eq_ok_iff_follow.1 hfind).2,
          at?_place_of_follow (find_eq_ok_iff_follow.1 hfind').2] at own
        exact Option.some.inj own
      cases found <;> cases found' <;> cases hface <;> rfl

/-- On disks of the same shape, only the file at the place of a path has a say in the text that is
read there. -/
theorem readText_eq_of_sameShape (same : SameShape (.folder disk.root) (.folder other.root))
    (own : (Entry.folder disk.root).face? (place "/" path) =
      (Entry.folder other.root).face? (place "/" path)) :
    disk.readText path = other.readText path := by
  rw [readText, contentsOf_eq_of_sameShape same own, readText]

end Read

end MakeAtlas.Disk
