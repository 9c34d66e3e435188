import MakeAtlas.Proofs.Path.BelowRoots
import MakeAtlas.Proofs.Path.Ways

/-!
# Paths that go straight

A path goes straight if it is absolute or stays below the folder that it is seen from. Such a path
is written again as the way from the folder to the place that it leads to, so that all straight
paths to one place are written alike. A path that goes up may come back to a place below the folder;
it is written as it goes.

## Key results

- `goesUp_eq_of_normalize_eq`: paths with one normal form go up alike
- `relativeTo?_absolute_of_isAnchored`: the way to the place of an absolute path
- `relativeTo?_absolute_of_straight`: the way to the place of a relative path that goes straight
-/

namespace MakeAtlas.Path

/-- Whether a path, with its steps resolved, goes up from the folder that it is seen from. -/
def goesUp (path : String) : Bool :=
  (collapse (isAnchored path.toList) (steps path.toList)).contains up

theorem goesUp_eq_false_iff {path : String} :
    goesUp path = false ↔ up ∉ collapse (isAnchored path.toList) (steps path.toList) := by
  rw [goesUp, ← Bool.not_eq_true, List.contains_iff_mem]

theorem goesUp_of_isAnchored {path : String} (h : isAnchored path.toList = true) :
    goesUp path = false := by
  rw [goesUp_eq_false_iff, h]
  exact up_not_mem_collapse _

/-- Names with slashes between them lead down. -/
theorem goesUp_joined {names : List String} (h : ∀ n ∈ names, isName n = true) :
    goesUp (joined names) = false := by
  rw [goesUp_eq_false_iff, steps_joined h, collapse_eq_self _ (up_not_mem_map h)]
  exact up_not_mem_map h

/-- Paths with forward slashes that have one normal form go up alike. -/
theorem goesUp_eq_of_normalize_eq {path other : String} (hpath : '\\' ∉ path.toList)
    (hother : '\\' ∉ other.toList) (h : normalize path = normalize other) :
    goesUp path = goesUp other := by
  have hsteps := congrArg steps (String.ofList_inj.1 h)
  rw [forward_eq_self hpath, forward_eq_self hother, steps_normal, steps_normal] at hsteps
  rw [goesUp, goesUp, hsteps]

/-! ## The way to a place -/

/-- An absolute path is as short as it can be. -/
theorem collapse_steps_absolute (folder path : String) :
    collapse true (steps (absolute folder path).toList) =
      collapse true (steps (append folder.toList path.toList)) := by
  rw [absolute, String.toList_ofList, steps_cons_slash, steps_joinSteps, collapse_collapse]
  exact fun step hstep => isStep_of_mem_steps (mem_of_mem_collapse hstep)

/-- The way from a folder hangs on where a path leads. -/
private theorem relativeTo?_congr {path other folder : String} (hpath : path ≠ "")
    (hother : other ≠ "")
    (h : collapse true (steps path.toList) = collapse true (steps other.toList)) :
    relativeTo? path folder = relativeTo? other folder := by
  simp [relativeTo?, hpath, hother, h]

theorem absolute_ne_empty (folder path : String) : absolute folder path ≠ "" := by
  rw [absolute, Ne, ← String.toList_eq_nil_iff, String.toList_ofList]
  exact List.cons_ne_nil _ _

/-- The way to the place of an absolute path is the way to the path. -/
theorem relativeTo?_absolute_of_isAnchored {path : String} (h : isAnchored path.toList = true)
    (folder : String) : relativeTo? (absolute folder path) folder = relativeTo? path folder := by
  have hne : path ≠ "" := by
    rintro rfl
    cases h
  apply relativeTo?_congr (absolute_ne_empty folder path) hne
  rw [collapse_steps_absolute, append_of_isAnchored h]

/-- The way to the place of a relative path that goes straight is its normal form. -/
theorem relativeTo?_absolute_of_straight {path : String} (hslash : '\\' ∉ path.toList)
    (hrelative : isAnchored path.toList = false) (h : goesUp path = false) (folder : String) :
    relativeTo? (absolute folder path) folder = some (normalize path) := by
  rw [goesUp_eq_false_iff, hrelative] at h
  -- the steps below the folder come behind the folder's own
  have hplace : collapse true (steps (absolute folder path).toList) =
      collapse true (steps folder.toList) ++ collapse false (steps path.toList) := by
    rw [collapse_steps_absolute, steps_append_path _ hrelative, collapse_append_straight true _ h]
  have hway : wayBetween folder (absolute folder path) = collapse false (steps path.toList) := by
    rw [wayBetween, hplace, dropCommon_append]
    rfl
  have hplain : '\\' ∉ (written folder (absolute folder path)).toList := by
    refine backslash_not_mem_written fun step hstep hc => ?_
    rw [hway] at hstep
    exact hslash (mem_of_mem_steps (mem_of_mem_collapse hstep) hc)
  have hnormal : normal (written folder (absolute folder path)).toList = normal path.toList := by
    apply normal_congr
    · rw [anchor_of_not isAnchored_written, anchor_of_not hrelative]
    · rw [isAnchored_written, hrelative, steps_written, hway, collapse_collapse]
  rw [relativeTo?_eq_normalize (absolute_ne_empty folder path) hplain, normalize, normalize,
    forward_eq_self hplain, forward_eq_self hslash, hnormal]

end MakeAtlas.Path
