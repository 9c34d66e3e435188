import MakeAtlas.Proofs.TableKeys
import MakeAtlas.Resolution.Basic

/-!
# When a reference is resolved

What must hold of a reference for it to give a dependency, and which dependency that is. Everything
else about runs over many references rests on these statements.

## Key results

- `ofFound_eq_ok_iff`: which parts make a dependency
- `exists_found_eq_resolved_iff`: what a dependency between two named projects rests on
- `leads_outcome`: what can become of a reference, and when
- `outcome_eq_resolved_iff`: which references give a dependency, and which one
- `outcome_eq_invalid_iff`: which references are rejected, where every path has one owner at most
- `dependencies_flatMap`: what is found over several lists of resolutions
-/

namespace MakeAtlas

open MakeAtlas.Record

namespace Dependency

/-- A bound of a number is one of the integer that it is written as. -/
theorem le_of_mem_map_ofNat {bound : Nat} {given : Option Nat} (h : ∀ n ∈ given, bound ≤ n) :
    ∀ n ∈ given.map Int.ofNat, (bound : Int) ≤ n := by
  intro n hn
  obtain ⟨m, hm, rfl⟩ := Option.map_eq_some_iff.1 hn
  exact Int.ofNat_le.2 (h m hm)

/-- Reading a line that a program has found: one below the first is refused. -/
theorem read_line_eq_ok_iff {given : Option Int} {line : Option Nat} :
    nullable (intBetween 1 none) ((given.map Value.int).getD .null) = .ok line ↔
      line.map Int.ofNat = given ∧ ∀ n ∈ line, 0 < n := by
  cases given with
  | none => cases line <;> simp [nullable]
  | some n =>
    have hread : intBetween 1 none (.int n) =
        if n < 1 then .fault (.atLeast 1) (.int n) else .ok n.toNat := rfl
    simp only [Option.map_some, Option.getD_some, nullable, hread]
    by_cases hn : n < 1
    · -- a line below the first is refused, and no line that is read stands for it
      simp only [if_pos hn, Reading.fault, Reading.map, reduceCtorEq, false_iff, not_and]
      intro hline hpos
      cases line with
      | none => simp at hline
      | some m =>
        have hm : (m : Int) = n := by simpa using hline
        have := hpos m rfl
        omega
    · simp only [if_neg hn, Reading.map, Reading.ok.injEq]
      cases line with
      | none => simp
      | some m =>
        simp only [Option.some.injEq, Option.map_some, Int.ofNat_eq_natCast, Option.mem_def,
          forall_eq']
        omega

/-- A program's parts make a dependency exactly if they are the dependency's own: different ends and
    a line that is one of a file's lines. -/
theorem ofFound_eq_ok_iff {source target evidence : String} {line : Option Int} {d : Dependency} :
    ofFound source target evidence line = .ok d ↔
      d.source = source ∧ d.target = target ∧ d.evidence = evidence ∧
        d.line.map Int.ofNat = line := by
  -- The line is read first; the parts are put together only if that succeeds
  have hparse : ofFound source target evidence line = .ok d ↔
      ∃ n, (nullable (intBetween 1 none) ((line.map Value.int).getD .null) = .ok n) ∧
        ofParts ((line.map Value.int).getD .null) source target evidence n = .ok d := by
    simp only [ofFound, parse]
    cases h : nullable (intBetween 1 none) ((line.map Value.int).getD .null) with
    | faulty faults => simp [Reading.below, Reading.andThen]
    | ok n =>
      simp only [Reading.below, Reading.andThen, Reading.ok.injEq, exists_eq_left']
      cases ofParts ((line.map Value.int).getD .null) source target evidence n <;> simp
  rw [hparse]
  simp only [read_line_eq_ok_iff]
  constructor
  · intro h
    obtain ⟨n, ⟨hline, hpos⟩, hparts⟩ := h
    by_cases hself : source = target
    · rw [ofParts, dif_pos hself] at hparts
      cases hparts
    · rw [ofParts, dif_neg hself, dif_pos hpos] at hparts
      cases hparts
      exact ⟨rfl, rfl, rfl, hline⟩
  · intro h
    obtain ⟨rfl, rfl, rfl, rfl⟩ := h
    refine ⟨d.line, ⟨rfl, d.line_pos⟩, ?_⟩
    rw [ofParts, dif_neg d.source_ne_target, dif_pos d.line_pos]

/-- Parts make some dependency exactly if the ends differ and the line is not below the first. -/
theorem exists_ofFound_eq_ok_iff {source target evidence : String} {line : Option Int} :
    (∃ d, ofFound source target evidence line = .ok d) ↔
      source ≠ target ∧ ∀ n ∈ line, 1 ≤ n := by
  simp only [ofFound_eq_ok_iff]
  constructor
  · intro h
    obtain ⟨d, rfl, rfl, rfl, rfl⟩ := h
    exact ⟨d.source_ne_target, le_of_mem_map_ofNat d.line_pos⟩
  · intro h
    obtain ⟨hne, hline⟩ := h
    refine ⟨⟨source, target, evidence, line.map Int.toNat, hne, ?_⟩, rfl, rfl, rfl, ?_⟩
    · intro n hn
      obtain ⟨m, hm, rfl⟩ := Option.map_eq_some_iff.1 hn
      have := hline m hm
      omega
    · cases line with
      | none => rfl
      | some n =>
        have := hline n rfl
        simp only [Option.map_some, Option.some.injEq, Int.ofNat_eq_natCast]
        omega

/-- Whether a file shows what a project at a root depends on: without the blanks around its path it
    is named, and it belongs to the root. -/
structure Shows (evidence root : String) : Prop where
  named : (String.ofList (Text.trim evidence.toList)).isEmpty = false
  belongs : Path.belongsTo (String.ofList (Text.trim evidence.toList)) root = true

end Dependency

/-- The status of a rejected reference is that of no other. -/
theorem Outcome.status_eq_invalid_iff {outcome : Outcome} :
    outcome.status = "invalid" ↔ ∃ why, outcome = .invalid why := by
  cases outcome <;> simp [status]

namespace Atlas

/-- A dependency between two given projects is found exactly if its parts are the given ones and it
    holds among the projects. -/
theorem found_eq_resolved_iff {atlas : Atlas} {source target evidence : String}
    {line : Option Int} {d : Dependency} :
    atlas.found source target evidence line = .resolved d ↔
      (d.source = source ∧ d.target = target ∧ d.evidence = evidence ∧
        d.line.map Int.ofNat = line) ∧ d.invalidity atlas.projects = none := by
  rw [← Dependency.ofFound_eq_ok_iff, found]
  cases Dependency.ofFound source target evidence line with
  | error e => simp
  | ok d' =>
    simp only [Except.ok.injEq]
    cases hvalid : d'.invalidity atlas.projects with
    | some why =>
      simp only [reduceCtorEq, false_iff, not_and]
      rintro rfl
      simp [hvalid]
    | none =>
      simp only [Outcome.resolved.injEq]
      constructor
      · rintro rfl
        exact ⟨rfl, hvalid⟩
      · exact And.left

/-- What a dependency between two named projects rests on: both are keys of the table of projects,
    the line is no line before the first, and the file shows it for the root that the source has in
    the table. -/
structure IsSupported (projects : Table Project) (source target evidence : String)
    (line : Option Int) : Prop where
  source_known : source ∈ projects.keys
  target_known : target ∈ projects.keys
  line_pos : ∀ n ∈ line, 1 ≤ n
  shown : ∀ p, projects.get? source = some p → Dependency.Shows evidence p.root

/-- A dependency between two given projects is found exactly if they differ and it is supported. -/
theorem exists_found_eq_resolved_iff {atlas : Atlas} {source target evidence : String}
    {line : Option Int} :
    (∃ d, atlas.found source target evidence line = .resolved d) ↔
      source ≠ target ∧ IsSupported atlas.projects source target evidence line := by
  simp only [found_eq_resolved_iff, ← Dependency.ofFound_eq_ok_iff]
  constructor
  · intro h
    obtain ⟨d, hd, hvalid⟩ := h
    have hparts := Dependency.exists_ofFound_eq_ok_iff.1 ⟨d, hd⟩
    obtain ⟨rfl, rfl, rfl, _⟩ := Dependency.ofFound_eq_ok_iff.1 hd
    obtain ⟨p, hsource, htarget, hnamed, hbelongs⟩ := Dependency.invalidity_eq_none_iff.1 hvalid
    refine ⟨hparts.1, ?_, Table.has_eq_true_iff.1 htarget, hparts.2, ?_⟩
    · exact List.mem_map_of_mem (Table.mem_of_get? hsource)
    · intro q hq
      rw [hsource, Option.some.injEq] at hq
      rw [← hq]
      exact ⟨hnamed, hbelongs⟩
  · intro h
    obtain ⟨hne, hsupported⟩ := h
    obtain ⟨d, hd⟩ := Dependency.exists_ofFound_eq_ok_iff.2 ⟨hne, hsupported.line_pos⟩
    obtain ⟨p, hp⟩ := Table.exists_get?_of_mem_keys hsupported.source_known
    have hshown := hsupported.shown p hp
    refine ⟨d, hd, Dependency.invalidity_eq_none_iff.2 ?_⟩
    obtain ⟨rfl, rfl, rfl, _⟩ := Dependency.ofFound_eq_ok_iff.1 hd
    exact ⟨p, hp, Table.has_eq_true_iff.2 hsupported.target_known, hshown.named, hshown.belongs⟩

/-- What is not found is rejected with a reason. -/
theorem found_eq_resolved_or_invalid (atlas : Atlas) (source target evidence : String)
    (line : Option Int) :
    (∃ d, atlas.found source target evidence line = .resolved d) ∨
      ∃ why, atlas.found source target evidence line = .invalid why := by
  unfold found
  split
  · exact Or.inr ⟨_, rfl⟩
  · split
    · exact Or.inr ⟨_, rfl⟩
    · exact Or.inl ⟨_, rfl⟩

/-- What can become of a path that a project mentions, and when. -/
inductive Leads (atlas : Atlas) (source : Project) (candidate evidence : String)
    (line : Option Int) : Outcome → Prop
  | stays (stays : ¬ Path.climbs candidate = true) :
    Leads atlas source candidate evidence line .notCandidate
  | unowned (climbs : Path.climbs candidate = true)
    (owners : atlas.index.owners (atlas.target source candidate) = []) :
    Leads atlas source candidate evidence line .noMatch
  | itself (climbs : Path.climbs candidate = true)
    (owners : atlas.index.owners (atlas.target source candidate) = [source.name]) :
    Leads atlas source candidate evidence line .selfReference
  | found {owner : String} {d : Dependency} (climbs : Path.climbs candidate = true)
    (owners : atlas.index.owners (atlas.target source candidate) = [owner])
    (other : owner ≠ source.name)
    (found : atlas.found source.name owner evidence line = .resolved d) :
    Leads atlas source candidate evidence line (.resolved d)
  | rejected {owner : String} {why : Rejection} (climbs : Path.climbs candidate = true)
    (owners : atlas.index.owners (atlas.target source candidate) = [owner])
    (other : owner ≠ source.name)
    (rejected : atlas.found source.name owner evidence line = .invalid why) :
    Leads atlas source candidate evidence line (.invalid why)
  | several (climbs : Path.climbs candidate = true)
    (owned : atlas.index.owners (atlas.target source candidate) ≠ [])
    (many : ∀ owner, atlas.index.owners (atlas.target source candidate) ≠ [owner]) :
    Leads atlas source candidate evidence line
      (.invalid (.ambiguous (atlas.index.owners (atlas.target source candidate))))

theorem leads_outcome (atlas : Atlas) (source : Project) (candidate evidence : String)
    (line : Option Int) :
    Leads atlas source candidate evidence line (atlas.outcome source candidate evidence line) := by
  unfold outcome
  by_cases hclimbs : Path.climbs candidate = true
  · rw [if_pos hclimbs]
    split
    · next hnone => exact .unowned hclimbs hnone
    · next owner hone =>
      split
      · next hself => exact .itself hclimbs (hself ▸ hone)
      · next hother =>
        -- what is looked for between two projects is found or rejected
        rcases atlas.found_eq_resolved_or_invalid source.name owner evidence line with
          ⟨d, hfound⟩ | ⟨why, hrejected⟩
        · rw [hfound]
          exact .found hclimbs hone hother hfound
        · rw [hrejected]
          exact .rejected hclimbs hone hother hrejected
    · next hsome hmany => exact .several hclimbs hsome hmany
  · rw [if_neg hclimbs]
    exact .stays hclimbs

/-- A reference gives a dependency exactly if it climbs out of its project to a path with one owner,
    another project, and the dependency on that owner holds among the projects. -/
theorem outcome_eq_resolved_iff {atlas : Atlas} {source : Project} {candidate evidence : String}
    {line : Option Int} {d : Dependency} :
    atlas.outcome source candidate evidence line = .resolved d ↔
      Path.climbs candidate = true ∧
        atlas.index.owners (atlas.target source candidate) = [d.target] ∧
        (d.source = source.name ∧ d.evidence = evidence ∧ d.line.map Int.ofNat = line) ∧
        d.invalidity atlas.projects = none := by
  constructor
  · intro h
    have hleads := atlas.leads_outcome source candidate evidence line
    rw [h] at hleads
    cases hleads with
    | found hclimbs hone hother hfound =>
      obtain ⟨⟨hsource, rfl, hevidence, hline⟩, hvalid⟩ := found_eq_resolved_iff.1 hfound
      exact ⟨hclimbs, hone, ⟨hsource, hevidence, hline⟩, hvalid⟩
  · rintro ⟨hclimbs, hone, ⟨hsource, hevidence, hline⟩, hvalid⟩
    -- a dependency never joins a project to itself
    have hother : d.target ≠ source.name := fun hself =>
      d.source_ne_target (hsource.trans hself.symm)
    rw [outcome, if_pos hclimbs, hone]
    exact (if_neg hother).trans
      (found_eq_resolved_iff.2 ⟨⟨hsource, rfl, hevidence, hline⟩, hvalid⟩)

/-! ## Rejected references -/

section Rejected

variable {atlas : Atlas} {source : Project} {evidence : String} {line : Option Int}
  (known : atlas.projects.get? source.name = some source) (line_pos : ∀ n ∈ line, 1 ≤ n)
  (named : (String.ofList (Text.trim evidence.toList)).isEmpty = false)

include known line_pos named

/-- Between two known projects, with a file that is named and a line that is one of its lines, all
    that can be wrong is that the file does not belong to the source. -/
theorem found_eq_invalid_iff {target : String} (hne : target ≠ source.name)
    (htarget : target ∈ atlas.projects.keys) {why : Rejection} :
    atlas.found source.name target evidence line = .invalid why ↔
      Path.belongsTo (String.ofList (Text.trim evidence.toList)) source.root = false ∧
        why = .unfounded
          (.foreignEvidence (String.ofList (Text.trim evidence.toList)) source.root) := by
  obtain ⟨d, hd⟩ := Dependency.exists_ofFound_eq_ok_iff.2 ⟨hne.symm, line_pos⟩
  obtain ⟨hsource, rfl, hevidence, -⟩ := Dependency.ofFound_eq_ok_iff.1 hd
  have hfile : d.evidenceFile = String.ofList (Text.trim evidence.toList) := by
    rw [Dependency.evidenceFile, hevidence]
  have hinvalidity : d.invalidity atlas.projects =
      if Path.belongsTo (String.ofList (Text.trim evidence.toList)) source.root then none
      else some (.foreignEvidence (String.ofList (Text.trim evidence.toList)) source.root) := by
    simp [Dependency.invalidity, hsource, known, Table.has_eq_true_iff.2 htarget, hfile, named]
  rw [found, hd]
  dsimp only
  rw [hinvalidity]
  cases Path.belongsTo (String.ofList (Text.trim evidence.toList)) source.root <;>
    simp [eq_comm]

/-- Where a path has one owner at most, which is known, a reference is rejected exactly if it leads
    to another project and its file does not belong to its own. -/
theorem outcome_eq_invalid_iff {candidate : String}
    (single : atlas.index.owners (atlas.target source candidate) = [] ∨
      ∃ owner ∈ atlas.projects.keys,
        atlas.index.owners (atlas.target source candidate) = [owner]) {why : Rejection} :
    atlas.outcome source candidate evidence line = .invalid why ↔
      (Path.climbs candidate = true ∧ ∃ owner, owner ≠ source.name ∧
        atlas.index.owners (atlas.target source candidate) = [owner]) ∧
      Path.belongsTo (String.ofList (Text.trim evidence.toList)) source.root = false ∧
        why = .unfounded
          (.foreignEvidence (String.ofList (Text.trim evidence.toList)) source.root) := by
  constructor
  · intro h
    have hleads := atlas.leads_outcome source candidate evidence line
    rw [h] at hleads
    cases hleads with
    | @rejected owner _ hclimbs hone hother hrejected =>
      obtain ⟨owner', howner', hone'⟩ := single.resolve_left (by simp [hone])
      obtain rfl : owner = owner' := List.singleton_inj.1 (hone.symm.trans hone')
      exact ⟨⟨hclimbs, owner, hother, hone⟩,
        (found_eq_invalid_iff known line_pos named hother howner').1 hrejected⟩
    | several _ hsome hmany =>
      rcases single with hnone | ⟨owner, -, hone⟩
      · exact absurd hnone hsome
      · exact absurd hone (hmany owner)
  · rintro ⟨⟨hclimbs, owner, hother, hone⟩, hforeign⟩
    obtain ⟨owner', howner', hone'⟩ := single.resolve_left (by simp [hone])
    obtain rfl : owner = owner' := List.singleton_inj.1 (hone.symm.trans hone')
    rw [outcome, if_pos hclimbs, hone]
    exact (if_neg hother).trans
      ((found_eq_invalid_iff known line_pos named hother howner').2 hforeign)

end Rejected

end Atlas

namespace Resolution

/-- A dependency is among the found ones exactly if some resolution gives it. -/
theorem mem_dependencies {resolutions : List Resolution} {d : Dependency} :
    d ∈ dependencies resolutions ↔ ∃ r ∈ resolutions, r.outcome = .resolved d := by
  simp only [dependencies, List.mem_filterMap]
  refine exists_congr fun r => and_congr_right fun _ => ?_
  cases h : r.outcome <;> simp [Outcome.dependency?]

/-- What is found over several lists of resolutions is found in each, one after the other. -/
theorem dependencies_flatMap {α : Type} (f : α → List Resolution) (xs : List α) :
    dependencies (xs.flatMap f) = xs.flatMap fun a => dependencies (f a) := by
  induction xs with
  | nil => rfl
  | cons a xs ih => rw [List.flatMap_cons, dependencies_append, ih, List.flatMap_cons]

end Resolution
end MakeAtlas
