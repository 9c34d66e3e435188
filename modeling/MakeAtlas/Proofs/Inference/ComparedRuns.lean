import MakeAtlas.Inference.Dependencies
import Mathlib.Data.List.Forall2

/-!
# Two searches compared

Two runs of a search may differ in their settings, or in how much the strategies report. They are
compared strategy by strategy: where each pair of strategies fails alike, or finds resolutions that
are related, the two searches end alike and find related resolutions, as far as the relation is kept
when findings are put together.

## Key results

- `SameUpTo`: two results fail alike, or their values are related
- `resolutionsOf_sameUpTo`: what becomes of related scans
- `attempt_sameUpTo`: one strategy for one project
- `gather_sameUpTo`: all strategies for all projects
- `dependencies_sameUpTo`: the dependencies that are left, one for each pair of projects
-/

namespace MakeAtlas

/-! ## Results compared -/

/-- Two results are the same up to a relation: both fail in the same way, or both succeed with
    related values. -/
inductive SameUpTo {ε α β : Type} (R : α → β → Prop) : Except ε α → Except ε β → Prop
  | error (e : ε) : SameUpTo R (.error e) (.error e)
  | ok {a : α} {b : β} (related : R a b) : SameUpTo R (.ok a) (.ok b)

namespace SameUpTo

variable {ε ε' α β γ δ : Type} {R : α → β → Prop} {S : γ → δ → Prop}

/-- A result is the same as itself up to a relation that holds of every value and itself. -/
theorem refl {R : α → α → Prop} (h : ∀ a, R a a) (x : Except ε α) : SameUpTo R x x := by
  cases x with
  | error e => exact .error e
  | ok a => exact .ok (h a)

/-- Going on with related values in related ways keeps results the same. -/
theorem bind {x : Except ε α} {y : Except ε β} {f : α → Except ε γ} {g : β → Except ε δ}
    (h : SameUpTo R x y) (next : ∀ a b, R a b → SameUpTo S (f a) (g b)) :
    SameUpTo S (x.bind f) (y.bind g) := by
  cases h with
  | error e => exact .error e
  | ok related => exact next _ _ related

theorem map {x : Except ε α} {y : Except ε β} {f : α → γ} {g : β → δ} (h : SameUpTo R x y)
    (next : ∀ a b, R a b → S (f a) (g b)) : SameUpTo S (x.map f) (y.map g) := by
  cases h with
  | error e => exact .error e
  | ok related => exact .ok (next _ _ related)

theorem mapError {x : Except ε α} {y : Except ε β} (f : ε → ε') (h : SameUpTo R x y) :
    SameUpTo R (x.mapError f) (y.mapError f) := by
  cases h with
  | error e => exact .error (f e)
  | ok related => exact .ok related

/-- Results that are the same up to a relation that holds of equal values only are equal. -/
theorem eq {R : α → α → Prop} {x y : Except ε α} (h : SameUpTo R x y)
    (next : ∀ a b, R a b → a = b) : x = y := by
  cases h with
  | error e => rfl
  | ok related => rw [next _ _ related]

end SameUpTo

/-! ## Scans compared -/

namespace Site

/-- The resolutions of what a scan reports in a project, be it a scanner's or not. A project without
    a folder has none. -/
def resolutionsOf (site : Site) (p : Project)
    (scan : (folder root : String) → Except FileError (List Reference)) :
    Except FileError (List Resolution) :=
  (site.disk.isFolder "/" (site.folderOf p)).bind fun isFolder =>
    if isFolder then
      (scan (site.folderOf p) p.root).map fun references => references.map (site.resolve p)
    else .ok []

theorem includeResolutions_eq_resolutionsOf (site : Site) (scanner : IncludeScanner) (p : Project) :
    site.includeResolutions scanner p =
      site.resolutionsOf p (scanner.scan site.disk site.toolchain) := by
  unfold includeResolutions resolutionsOf
  generalize scanner.scan site.disk site.toolchain = scan
  dsimp only
  generalize site.disk.isFolder "/" (site.folderOf p) = answer
  cases answer with
  | error e => rfl
  | ok isFolder => cases isFolder <;> rfl

/-- Scans that are the same up to a relation lead to resolutions that are the same up to another,
    if resolving related references does. -/
theorem resolutionsOf_sameUpTo {site : Site} {p : Project}
    {scan scan' : (folder root : String) → Except FileError (List Reference)}
    {Q : List Reference → List Reference → Prop} {R : List Resolution → List Resolution → Prop}
    (nil : R [] []) (scans : SameUpTo Q (scan (site.folderOf p) p.root)
      (scan' (site.folderOf p) p.root))
    (resolved : ∀ rs rs', Q rs rs' → R (rs.map (site.resolve p)) (rs'.map (site.resolve p))) :
    SameUpTo R (site.resolutionsOf p scan) (site.resolutionsOf p scan') := by
  unfold resolutionsOf
  cases site.disk.isFolder "/" (site.folderOf p) with
  | error e => exact .error e
  | ok isFolder =>
    cases isFolder with
    | false => exact .ok nil
    | true => exact scans.map resolved

end Site

namespace Inference

/-! ## Strategies compared -/

/-- A relation between findings that is kept when findings are put together. -/
structure IsBlockwise (R : List Resolution → List Resolution → Prop) : Prop where
  nil : R [] []
  append : ∀ {as bs cs ds}, R as bs → R cs ds → R (as ++ cs) (bs ++ ds)

/-- Two findings say the same about failures, and their resolutions are related. -/
structure Findings.Related (R : List Resolution → List Resolution → Prop) (a b : Findings) :
    Prop where
  resolutions : R a.resolutions b.resolutions
  warnings : a.warnings = b.warnings

/-- Two strategies of one name fail alike for a project, or what they find is related. -/
structure StrategiesRelated (R : List Resolution → List Resolution → Prop) (p : Project)
    (s s' : Strategy) : Prop where
  name : s.name = s'.name
  find : SameUpTo R (s.find p) (s'.find p)

variable {R : List Resolution → List Resolution → Prop}

/-- The strategies for two kinds of evidence are related as what the kinds show is. -/
theorem strategiesRelated_strategy {site : Site} {p : Project} {kind kind' : EvidenceKind}
    (name : kind.name = kind'.name)
    (shown : SameUpTo R (kind.resolutions site p) (kind'.resolutions site p)) :
    StrategiesRelated R p (kind.strategy site) (kind'.strategy site) :=
  ⟨name, shown.mapError _⟩

/-- Related strategies are attempted alike. -/
theorem attempt_sameUpTo (blockwise : IsBlockwise R) {p : Project} {s s' : Strategy}
    (h : StrategiesRelated R p s s') :
    SameUpTo (Findings.Related R) (attempt p s) (attempt p s') := by
  obtain ⟨hname, hfind⟩ := h
  unfold attempt
  rw [hname]
  generalize s.find p = x at hfind
  generalize s'.find p = y at hfind
  cases hfind with
  | ok related => exact .ok ⟨related, rfl⟩
  | error failure =>
    -- a failure is said, or ends the search, in the same words
    cases failure with
    | recoverable reason => exact .ok ⟨blockwise.nil, rfl⟩
    | configuration reason => exact .error reason

/-- Looking at the members of two lists in related ways finds what is related. -/
theorem collect_sameUpTo (blockwise : IsBlockwise R) {α β : Type}
    {find : α → Except String Findings} {find' : β → Except String Findings} {xs : List α}
    {ys : List β}
    (h : List.Forall₂ (fun x y => SameUpTo (Findings.Related R) (find x) (find' y)) xs ys) :
    SameUpTo (Findings.Related R) (collect find xs) (collect find' ys) := by
  induction h with
  | nil => exact .ok ⟨blockwise.nil, rfl⟩
  | cons hxy _ ih =>
    refine hxy.bind fun first first' hfirst => ih.bind fun others others' hothers => .ok ?_
    refine ⟨blockwise.append hfirst.resolutions hothers.resolutions, ?_⟩
    simp only [Findings.append, hfirst.warnings, hothers.warnings]

/-- Related strategies, used for the same projects, find what is related. -/
theorem gather_sameUpTo (blockwise : IsBlockwise R) {ss ss' : List Strategy} {ps : List Project}
    (h : ∀ p ∈ ps, List.Forall₂ (StrategiesRelated R p) ss ss') :
    SameUpTo (Findings.Related R) (gather ss ps) (gather ss' ps) := by
  refine collect_sameUpTo blockwise (List.forall₂_same.2 fun p hp => ?_)
  exact collect_sameUpTo blockwise ((h p hp).imp fun _ _ hs => attempt_sameUpTo blockwise hs)

/-- Related strategies lead to related dependencies, and say the same about failures, if collapsing
    keeps findings related. -/
theorem dependencies_sameUpTo (blockwise : IsBlockwise R)
    {S : List Dependency → List Dependency → Prop}
    (collapse : ∀ as bs, R as bs → S (Resolution.collapse as) (Resolution.collapse bs))
    {ss ss' : List Strategy} {projects : Table Project} {changed : Option (List String)}
    (h : ∀ p ∈ visited projects changed, List.Forall₂ (StrategiesRelated R p) ss ss') :
    SameUpTo (fun found found' => S found.1 found'.1 ∧ found.2 = found'.2)
      (dependencies ss projects changed) (dependencies ss' projects changed) :=
  (gather_sameUpTo blockwise h).map fun _ _ hfindings =>
    ⟨collapse _ _ hfindings.resolutions, hfindings.warnings⟩

end Inference

end MakeAtlas
