import MakeAtlas.Proofs.Path.Ways
import MakeAtlas.Proofs.Resolution.OutsidePaths

/-!
# Where a way leads

Seen from a rooted folder, the way to a rooted path leads to the path, and it goes up exactly if the
path is not in the folder. A way that only goes up once, to the parent folder, is not taken to
climb.

## Key results

- `IsRooted.relativeTo?_eq`: the way is written in normal form
- `resolve_way`: where the way leads
- `firstPiece?_way_iff`: when the way goes up
- `way_eq_up_iff`: when the way goes up once, and no further
- `leadsBack_way`: all of it
-/

namespace MakeAtlas.Path

variable {folder path : String}

/-! ## Rooted paths -/

/-- An absolute path without backslashes that begins with one slash and not with two; three or more
count as one. -/
structure IsRooted (path : String) : Prop where
  anchor : anchor path.toList = ['/']
  forward : '\\' ∉ path.toList

instance (path : String) : Decidable (IsRooted path) :=
  decidable_of_iff (anchor path.toList = ['/'] ∧ '\\' ∉ path.toList)
    ⟨fun h => ⟨h.1, h.2⟩, fun h => ⟨h.anchor, h.forward⟩⟩

namespace IsRooted

theorem isAnchored (h : IsRooted path) : isAnchored path.toList = true := by
  have hanchor := isEmpty_anchor path.toList
  rw [h.anchor] at hanchor
  simpa using hanchor

theorem ne_empty (h : IsRooted path) : path ≠ "" := by
  rintro rfl
  cases h.anchor

theorem toList_normalize (h : IsRooted path) : (normalize path).toList = normal path.toList := by
  rw [normalize, String.toList_ofList, forward_eq_self h.forward]

theorem steps_normalize (h : IsRooted path) :
    steps (normalize path).toList = collapse true (steps path.toList) := by
  rw [h.toList_normalize, steps_normal, h.isAnchored]

theorem anchor_normalize (h : IsRooted path) : Path.anchor (normalize path).toList = ['/'] := by
  rw [h.toList_normalize, anchor_normal, h.anchor]

/-- The normal form of a rooted path is rooted, -/
theorem isRooted_normalize (h : IsRooted path) : IsRooted (normalize path) where
  anchor := h.anchor_normalize
  forward hmem := by
    rw [h.toList_normalize] at hmem
    rcases mem_of_mem_normal hmem with hpath | hslash | hdot
    · exact h.forward hpath
    · cases hslash
    · cases hdot

/-- and settled. -/
theorem isSettled_normalize (h : IsRooted path) : IsSettled (normalize path) := by
  have hanchored : Path.isAnchored (Path.forward path.toList) = true := by
    rw [forward_eq_self h.forward, h.isAnchored]
  have hsettled : IsSettled (resolve "/" path) := isSettled_resolve rfl path
  rwa [resolve_of_anchored hanchored] at hsettled

/-- The way to a rooted path has no backslashes. -/
theorem not_backslash_written (h : IsRooted path) (folder : String) :
    '\\' ∉ (written folder path).toList := by
  refine backslash_not_mem_written fun step hstep => ?_
  rcases eq_up_or_mem_of_mem_wayBetween hstep with rfl | hstep
  · decide
  · exact fun hmem => h.forward (mem_of_mem_steps hstep hmem)

theorem forward_written (h : IsRooted path) (folder : String) :
    Path.forward (written folder path).toList = (written folder path).toList :=
  forward_eq_self (h.not_backslash_written folder)

theorem isAnchored_forward_written (h : IsRooted path) (folder : String) :
    Path.isAnchored (Path.forward (written folder path).toList) = false := by
  rw [h.forward_written, isAnchored_written]

/-- The way to a rooted path is written in normal form. -/
theorem relativeTo?_eq (h : IsRooted path) (folder : String) :
    relativeTo? path folder = some (normalize (written folder path)) :=
  relativeTo?_eq_normalize h.ne_empty (h.not_backslash_written folder)

end IsRooted

/-! ## Where a way leads -/

section Rooted

variable (hfolder : IsRooted folder) (hpath : IsRooted path)

include hfolder hpath

/-- From a folder, the way to a path leads to the path. -/
theorem resolve_way : resolve folder (normalize (written folder path)) = normalize path := by
  rw [resolve_normalize (hpath.isAnchored_forward_written folder)]
  show String.ofList (normal (append folder.toList (forward (written folder path).toList))) =
    String.ofList (normal (forward path.toList))
  rw [hpath.forward_written folder, forward_eq_self hpath.forward]
  apply congrArg String.ofList
  apply normal_congr
  · rw [anchor_append_path _ isAnchored_written, hfolder.anchor, hpath.anchor]
  · rw [isAnchored_append_path hfolder.isAnchored, hpath.isAnchored,
      steps_append_path _ isAnchored_written, steps_written, collapse_wayBetween]

/-- The normal form of a path is in that of a folder exactly if the folder's resolved steps are the
first ones of the path. -/
theorem isWithin_normalize_iff :
    isWithin (normalize path) (normalize folder) = true ↔
      collapse true (steps folder.toList) <+: collapse true (steps path.toList) := by
  rw [isWithin_iff_isAbove hpath.isSettled_normalize hfolder.isSettled_normalize, IsAbove, segments,
    segments, hfolder.anchor_normalize, hpath.anchor_normalize, List.prefix_append_right_inj,
    hfolder.steps_normalize, hpath.steps_normalize]

/-- The way to a path begins with a step up exactly if the path is not in the folder. -/
theorem firstPiece?_way_iff :
    firstPiece? (normalize (written folder path)) = some up ↔
      isWithin (normalize path) (normalize folder) = false := by
  rw [firstPiece?, normalize_normalize, ← firstPiece?,
    firstPiece?_eq_up_iff (hpath.isAnchored_forward_written folder), hpath.forward_written folder,
    steps_written, collapse_false_wayBetween, up_mem_wayBetween_iff,
    ← isWithin_normalize_iff hfolder hpath, Bool.not_eq_true]

omit hfolder hpath in
/-- From the root of the file system on, a step up takes back the last step. -/
theorem collapse_append_up (names : List (List Char)) :
    collapse true (names ++ [up]) = (collapse true names).dropLast := by
  have hup := up_not_mem_collapse names
  rw [collapse_append, List.foldl_cons, List.foldl_nil]
  rcases List.eq_nil_or_concat' (collapse true names) with hnone | ⟨above, last, hlast⟩
  · rw [hnone]
    rfl
  · rw [hlast] at hup ⊢
    have hne : last ≠ up := fun heq => hup (heq ▸ List.mem_concat_self)
    simp [advance, hne]

/-- The way goes up once and no further exactly if it leads to the folder above. The root of the
file system, which has none, is its own. -/
theorem way_eq_up_iff :
    normalize (written folder path) = ".." ↔
      isWithin (normalize path) (normalize folder) = false ∧
        normalize path = resolve folder ".." := by
  constructor
  · intro h
    have houtside := firstPiece?_way_iff hfolder hpath
    have hplace := resolve_way hfolder hpath
    rw [h] at houtside hplace
    exact ⟨houtside.1 (by decide), hplace.symm⟩
  · rintro ⟨houtside, hparent⟩
    have habove : steps (resolve folder "..").toList =
        (collapse true (steps folder.toList)).dropLast := by
      rw [steps_resolve_of_relative hfolder.isAnchored rfl, ← collapse_append_up]
      rfl
    have hsteps : collapse true (steps path.toList) =
        (collapse true (steps folder.toList)).dropLast := by
      rw [← hpath.steps_normalize, hparent, habove]
    rw [← Bool.not_eq_true, isWithin_normalize_iff hfolder hpath] at houtside
    rcases List.eq_nil_or_concat' (collapse true (steps folder.toList)) with
      hroot | ⟨above, last, hlast⟩
    · rw [hroot] at houtside
      exact absurd List.nil_prefix houtside
    · -- all but the last step of the folder lead to the path
      rw [hlast, List.dropLast_concat] at hsteps
      have hleft : dropCommon (above ++ [last]) above = ([last], []) := by
        simpa [dropCommon] using dropCommon_append_append above [last] []
      have hway : wayBetween folder path = [up] := by
        rw [wayBetween, hlast, hsteps, hleft]
        rfl
      rw [written, hway]
      decide

omit hpath in
/-- The way to a path is the same from a folder and from its normal form. -/
theorem written_normalize (path : String) :
    written (normalize folder) path = written folder path := by
  rw [written, written, wayBetween, wayBetween, hfolder.steps_normalize, collapse_collapse]

end Rooted

/-- A way leads from a folder back to an absolute path. -/
structure LeadsBack (folder path way : String) : Prop where
  /-- Seen from the folder, the way leads to the path. -/
  place : resolve folder way = normalize path
  /-- The way does not begin with a step up exactly if the path is in the folder. -/
  stays_iff : firstPiece? way ≠ some up ↔ isWithin (normalize path) (normalize folder) = true
  /-- The way is taken to climb exactly if the path is neither in the folder nor the parent
  folder. -/
  climbs_iff : climbs way = true ↔ isWithin (normalize path) (normalize folder) = false ∧
    normalize path ≠ resolve folder ".."

/-- The way from a folder to a rooted path leads back to it. -/
theorem leadsBack_way (hfolder : IsRooted folder) (hpath : IsRooted path) :
    LeadsBack folder path (normalize (written folder path)) where
  place := resolve_way hfolder hpath
  stays_iff := by rw [Ne, firstPiece?_way_iff hfolder hpath, Bool.not_eq_false]
  climbs_iff := by
    rw [climbs_iff_firstPiece?, firstPiece?_way_iff hfolder hpath, normalize_normalize, Ne,
      way_eq_up_iff hfolder hpath]
    exact and_congr_right fun h => not_congr (and_iff_right h)

end MakeAtlas.Path
