import MakeAtlas.Proofs.Path.BelowRoots

/-!
# Normal forms taken early

Roots, evidence and the paths that files mention are brought into normal form long before they are
seen from a folder, and a root is put in front of a path before or after that. Neither changes which
place a relative path names, whatever detours it takes and however far it climbs: all that counts
are the steps of its parts, one part after the other.

## Key results

- `splitOn_normalize`: the pieces of a relative path's normal form are its resolved steps
- `climbsFirst_normalize`: such a normal form climbs first, and goes down by pieces that name
  something
- `resolve_resolve`: two relative paths lead, one from where the other leads, to the place of their
  steps together
- `resolve_underRoot`: a path below a root leads where the path leads from the root's folder
- `same_place_however_joined`: all of it
-/

namespace MakeAtlas.Path

variable {folder root path other : String}

/-! ## Pieces of a normal form -/

/-- The normal form of a relative path without resolved steps is one dot. -/
theorem normalize_eq_here (h : isAnchored (forward path.toList) = false)
    (hnone : collapse false (steps (forward path.toList)) = []) : normalize path = "." := by
  have hempty : normal (forward path.toList) = normal [] :=
    normal_congr (anchor_of_not h) (by rw [h]; exact hnone)
  rw [normalize, hempty]
  rfl

/-- The pieces of a relative path's normal form are its resolved steps; if there are none, it is one
dot. -/
theorem splitOn_normalize (h : isAnchored (forward path.toList) = false) :
    (normalize path).toList.splitOn '/' =
      if collapse false (steps (forward path.toList)) = [] then [here]
      else collapse false (steps (forward path.toList)) := by
  have hsteps : ∀ step ∈ collapse false (steps (forward path.toList)), IsStep step :=
    fun step hstep => isStep_of_mem_steps (mem_of_mem_collapse hstep)
  split
  · next hnone =>
    rw [normalize_eq_here h hnone]
    rfl
  · next hsome =>
    have hnormal := normal_cases (forward path.toList)
    rw [h, anchor_of_not h, List.nil_append] at hnormal
    rw [normalize, String.toList_ofList]
    rcases hnormal with hnormal | ⟨hnil, -⟩
    · rw [hnormal, splitOn_joinSteps (fun step hstep => (hsteps step hstep).not_slash) hsome]
    · obtain ⟨c, hlast, -⟩ := getLast?_joinSteps hsteps hsome
      rw [hnil] at hlast
      cases hlast

/-- A path that is `.`, or that climbs first and then goes down by pieces that name something:
behind the pieces `..` at its front none is `..`, `.` or empty. -/
def ClimbsFirst (path : String) : Prop :=
  path = "." ∨ ∀ piece ∈ (path.toList.splitOn '/').dropWhile (· == up),
    piece ≠ [] ∧ piece ≠ here ∧ piece ≠ up

instance (path : String) : Decidable (ClimbsFirst path) :=
  inferInstanceAs (Decidable (_ ∨ _))

/-- The normal form of a relative path climbs first and then goes down. -/
theorem climbsFirst_normalize (h : isAnchored (forward path.toList) = false) :
    ClimbsFirst (normalize path) := by
  have hpieces := splitOn_normalize h
  split at hpieces
  · next hnone => exact Or.inl (normalize_eq_here h hnone)
  · right
    obtain ⟨n, down, hclimb, hdown⟩ := exists_climb_then_down (steps (forward path.toList))
    intro piece hpiece
    rw [hpieces] at hpiece
    have hstep : IsStep piece :=
      isStep_of_mem_steps (mem_of_mem_collapse (List.dropWhile_subset _ hpiece))
    refine ⟨hstep.ne_nil, hstep.ne_here, ?_⟩
    rintro rfl
    rw [hclimb, List.dropWhile_append_of_pos] at hpiece
    · exact hdown (List.dropWhile_subset _ hpiece)
    · intro step hstep
      rw [List.eq_of_mem_replicate hstep]
      rfl

/-! ## One path after the other -/

/-- Two relative paths, the second one seen from where the first one leads, lead to the place of
every relative path with the steps of both. -/
theorem resolve_resolve (hroot : isAnchored (forward root.toList) = false)
    (hpath : isAnchored (forward path.toList) = false)
    (hother : isAnchored (forward other.toList) = false)
    (hsteps : steps (forward other.toList) =
      steps (forward root.toList) ++ steps (forward path.toList)) (folder : String) :
    resolve (resolve folder root) path = resolve folder other := by
  have hanchor : anchor (append (resolve folder root).toList (forward path.toList)) =
      anchor (append folder.toList (forward other.toList)) := by
    rw [anchor_append_path _ hpath, anchor_append_path _ hother, anchor_resolve_of_relative hroot]
  have hfolder : isAnchored (append folder.toList (forward root.toList)) =
      isAnchored (append folder.toList (forward other.toList)) := by
    rw [isAnchored_congr (anchor_append_path _ hroot),
      isAnchored_congr (anchor_append_path _ hother)]
  have hlead : steps (resolve folder root).toList =
      collapse (isAnchored (append folder.toList (forward other.toList)))
        (steps folder.toList ++ steps (forward root.toList)) := by
    rw [resolve, String.toList_ofList, steps_normal, hfolder, steps_append_path _ hroot]
  show String.ofList (normal (append (resolve folder root).toList (forward path.toList))) =
    String.ofList (normal (append folder.toList (forward other.toList)))
  apply congrArg String.ofList
  apply normal_congr hanchor
  -- the steps up to the root are resolved early
  rw [isAnchored_congr hanchor, steps_append_path _ hpath, hlead, collapse_append,
    collapse_collapse, ← collapse_append, steps_append_path _ hother, hsteps, List.append_assoc]

/-- A path below a root leads where the path leads from the root's folder. -/
theorem resolve_underRoot (hroot : isAnchored (forward root.toList) = false)
    (hpath : isAnchored (forward path.toList) = false) (folder : String) :
    resolve folder (underRoot root path) = resolve (resolve folder root) path := by
  rw [underRoot]
  split
  · next hworkspace =>
    -- the root of the workspace has no steps
    rw [resolve_normalize hpath]
    refine (resolve_resolve hroot hpath hpath ?_ folder).symm
    rw [isWorkspaceRoot, Bool.or_eq_true, beq_iff_eq, beq_iff_eq] at hworkspace
    rcases hworkspace with rfl | rfl <;> rfl
  · next hbelow =>
    have htext : forward (root ++ "/" ++ path).toList =
        forward root.toList ++ '/' :: forward path.toList := by
      rw [String.toList_append, String.toList_append]
      simp [forward]
    have hjoined : isAnchored (forward (root ++ "/" ++ path).toList) = false := by
      rw [htext]
      cases hcs : forward root.toList with
      | nil =>
        rw [forward, List.map_eq_nil_iff, String.toList_eq_nil_iff] at hcs
        exact absurd (hcs ▸ rfl) hbelow
      | cons c rest => rwa [hcs] at hroot
    rw [resolve_normalize hjoined]
    refine (resolve_resolve hroot hpath hjoined ?_ folder).symm
    rw [htext, steps_append_slash]

/-- For every folder, and every root and path that are relative, backslashes counting as slashes: a
    normal form is its own and climbs first, the normal form leads where the path leads, and the
    path below the root leads where it leads from the root's folder. -/
theorem same_place_however_joined (folder : String)
    (hroot : isAnchored (forward root.toList) = false)
    (hpath : isAnchored (forward path.toList) = false) :
    normalize (normalize path) = normalize path ∧
      ClimbsFirst (normalize path) ∧
      resolve folder (normalize path) = resolve folder path ∧
      resolve folder (underRoot root path) = resolve (resolve folder root) path :=
  ⟨normalize_normalize path, climbsFirst_normalize hpath, resolve_normalize hpath folder,
    resolve_underRoot hroot hpath folder⟩

/-- A path that climbs above the file system's root from a root that climbs itself. -/
theorem same_place_however_joined_above :
    isAnchored (forward "../lib\\.//app".toList) = false ∧
      isAnchored (forward "x\\../../../..//./inc".toList) = false ∧
      normalize "x\\../../../..//./inc" = "../../../inc" ∧
      ClimbsFirst "../../../inc" ∧
      resolve "/w" (underRoot "../lib\\.//app" "x\\../../../..//./inc") = "/inc" ∧
      resolve (resolve "/w" "../lib\\.//app") "x\\../../../..//./inc" = "/inc" := by
  have hroot : isAnchored (forward "../lib\\.//app".toList) = false := by decide
  have hpath : isAnchored (forward "x\\../../../..//./inc".toList) = false := by decide
  obtain ⟨-, hclimbs, -, hjoined⟩ := same_place_however_joined "/w" hroot hpath
  have hnormal : normalize "x\\../../../..//./inc" = "../../../inc" := by decide
  have hplace : resolve (resolve "/w" "../lib\\.//app") "x\\../../../..//./inc" = "/inc" := by
    decide
  exact ⟨hroot, hpath, hnormal, hnormal ▸ hclimbs, hjoined.trans hplace, hplace⟩

end MakeAtlas.Path
