import MakeAtlas.Proofs.Graph.Validity
import MakeAtlas.Proofs.Inference.Blocks
import MakeAtlas.Proofs.Inference.FileLimit

/-!
# Strategies that fail

A strategy may fail for a project. If the project is to blame, the search goes on as if nothing had
been found there: the failure costs what that one call would have shown, and nothing else. If the
settings are to blame, the search ends and finds nothing at all.

## Key results

- `gather_eq_collect_calls`: a search is a list of calls, looked at one after the other
- `collect_eq_error_iff`: what ends a search is the first call that does
- `dependencies_of_calls`: what is found if no call ends the search
- `dependencies_sameUpTo_mended`: a search with failures against one without them
- `failed_calls_cost_only_their_own`: all of it, for any strategies and projects
-/

namespace MakeAtlas

namespace Strategy

/-- What a strategy finds for a project. Where it fails it finds nothing. -/
def found (s : Strategy) (p : Project) : List Resolution :=
  match s.find p with
  | .ok resolutions => resolutions
  | .error _ => []

/-- The strategy that finds nothing where another one fails. -/
def silenced (s : Strategy) : Strategy where
  name := s.name
  find p := .ok (s.found p)

/-- What is said of a strategy that fails for a project and lets the search go on. -/
def complaints (s : Strategy) (p : Project) : List String :=
  match s.find p with
  | .error (.recoverable reason) =>
    ["Strategy " ++ s.name ++ " failed for " ++ p.name ++ ": " ++ reason]
  | _ => []

/-- A strategy finds at a project that the settings cannot be used. -/
def EndsSearch (s : Strategy) (p : Project) (reason : String) : Prop :=
  s.find p = .error (.configuration reason)

/-- A strategy does for a project what another one does there, and does not fail. -/
structure Mends (s' s : Strategy) (p : Project) : Prop where
  name : s'.name = s.name
  succeeds : ∃ resolutions, s'.find p = .ok resolutions
  same : ∀ resolutions, s.find p = .ok resolutions → s'.find p = .ok resolutions

theorem found_eq {s : Strategy} {p : Project} {resolutions : List Resolution}
    (h : s.find p = .ok resolutions) : s.found p = resolutions := by
  rw [found, h]

theorem Mends.find_eq {s' s : Strategy} {p : Project} (h : s'.Mends s p) :
    s'.find p = .ok (s'.found p) := by
  obtain ⟨resolutions, hfind⟩ := h.succeeds
  rw [hfind, found_eq hfind]

/-- A mended strategy finds what the other one finds, or the other one fails and finds nothing. -/
theorem Mends.found_cases {s' s : Strategy} {p : Project} (h : s'.Mends s p) :
    s'.found p = s.found p ∨ (∃ e, s.find p = .error e) ∧ s.found p = [] := by
  cases hfind : s.find p with
  | ok resolutions => exact Or.inl (by rw [found_eq hfind, found_eq (h.same _ hfind)])
  | error e => exact Or.inr ⟨⟨e, rfl⟩, by rw [found, hfind]⟩

end Strategy

namespace Inference

/-! ## A search as a list of calls -/

/-- A strategy that is asked about a project. -/
abbrev Call := Project × Strategy

/-- The calls of a search, in order: project by project, and then strategy by strategy. -/
def calls (strategies : List Strategy) (projects : List Project) : List Call :=
  projects.flatMap fun p => strategies.map fun s => (p, s)

theorem mem_calls {strategies : List Strategy} {projects : List Project} {p : Project}
    {s : Strategy} : (p, s) ∈ calls strategies projects ↔ p ∈ projects ∧ s ∈ strategies := by
  simp [calls]

/-- What is said first of all is that the settings cannot be used, and this is why. -/
def EndedBy (asked : List Call) (reason : String) : Prop :=
  ∃ before call after, asked = before ++ call :: after ∧ call.2.EndsSearch call.1 reason ∧
    ∀ earlier ∈ before, ∀ other, ¬ earlier.2.EndsSearch earlier.1 other

theorem collect_map {α β : Type} (find : β → Except String Findings) (f : α → β) (xs : List α) :
    collect find (xs.map f) = collect (fun x => find (f x)) xs := by
  induction xs with
  | nil => rfl
  | cons x xs ih => rw [List.map_cons, collect, collect, ih]

/-- Looking at projects with strategies is looking at the calls. -/
theorem gather_eq_collect_calls (strategies : List Strategy) (projects : List Project) :
    gather strategies projects =
      collect (fun call => attempt call.1 call.2) (calls strategies projects) := by
  induction projects with
  | nil => rfl
  | cons p ps ih =>
    rw [calls, List.flatMap_cons, ← calls, collect_append, ← ih, collect_map]
    show gather strategies ([p] ++ ps) = _
    rw [gather_append]
    congr 1
    -- a search of one project adds nothing behind it
    show collect _ [p] = _
    rw [collect, collect]
    cases collect (attempt p) strategies with
    | error reason => rfl
    | ok findings => simp [bind, Except.bind, Findings.append]

/-- A search ends early exactly if one of its members ends it, with what the first of them says. -/
theorem collect_eq_error_iff {α : Type} {find : α → Except String Findings} {xs : List α}
    {reason : String} :
    collect find xs = .error reason ↔
      ∃ before x after, xs = before ++ x :: after ∧ find x = .error reason ∧
        ∀ y ∈ before, ∀ other, find y ≠ .error other := by
  induction xs with
  | nil => simp [collect]
  | cons y ys ih =>
    rw [collect]
    cases hy : find y with
    | error other =>
      constructor
      · intro h
        cases h
        exact ⟨[], y, ys, rfl, hy, fun _ hnone => absurd hnone List.not_mem_nil⟩
      · rintro ⟨before, x, after, hxs, hx, hbefore⟩
        cases before with
        | nil =>
          obtain ⟨rfl, -⟩ := List.cons.inj hxs
          rw [hy] at hx
          exact hx
        | cons z before =>
          -- nothing stands before the first member
          obtain ⟨rfl, -⟩ := List.cons.inj hxs
          exact absurd hy (hbefore y List.mem_cons_self other)
    | ok findings =>
      have hrest : (do
          let others ← collect find ys
          .ok (findings.append others) : Except String Findings) = .error reason ↔
          collect find ys = .error reason := by
        cases collect find ys <;> simp [bind, Except.bind]
      refine Iff.trans hrest (ih.trans ?_)
      constructor
      · rintro ⟨before, x, after, rfl, hx, hbefore⟩
        refine ⟨y :: before, x, after, rfl, hx, ?_⟩
        rw [List.forall_mem_cons, hy]
        refine ⟨?_, hbefore⟩
        rintro other ⟨⟩
      · rintro ⟨before, x, after, hxs, hx, hbefore⟩
        cases before with
        | nil =>
          obtain ⟨rfl, -⟩ := List.cons.inj hxs
          rw [hy] at hx
          cases hx
        | cons z before =>
          obtain ⟨-, rfl⟩ := List.cons.inj hxs
          exact ⟨before, x, after, rfl, hx, fun w hw => hbefore w (List.mem_cons_of_mem z hw)⟩

/-- A member that ends a search keeps it from succeeding. -/
theorem exists_collect_eq_error {α : Type} (find : α → Except String Findings) {xs : List α} {x : α}
    (hx : x ∈ xs) {reason : String} (h : find x = .error reason) :
    ∃ first, collect find xs = .error first := by
  induction xs with
  | nil => exact absurd hx List.not_mem_nil
  | cons y ys ih =>
    rw [collect]
    cases hy : find y with
    | error first => exact ⟨first, rfl⟩
    | ok findings =>
      rcases List.mem_cons.1 hx with rfl | hx
      · rw [h] at hy
        cases hy
      · obtain ⟨first, hfirst⟩ := ih hx
        exact ⟨first, by rw [hfirst]; rfl⟩

/-! ## Single calls -/

theorem attempt_eq_error_iff {p : Project} {s : Strategy} {reason : String} :
    attempt p s = .error reason ↔ s.EndsSearch p reason := by
  unfold attempt Strategy.EndsSearch
  cases s.find p with
  | ok resolutions => simp
  | error failure => cases failure <;> simp

/-- A call that does not end the search finds what the strategy finds, and says that it has failed
    if it has. -/
theorem attempt_eq_ok {p : Project} {s : Strategy} (h : ∀ reason, ¬ s.EndsSearch p reason) :
    attempt p s = .ok ⟨s.found p, s.complaints p⟩ := by
  unfold attempt Strategy.found Strategy.complaints
  cases hfind : s.find p with
  | ok resolutions => rfl
  | error failure =>
    cases failure with
    | recoverable reason => rfl
    | configuration reason => exact absurd hfind (h reason)

/-! ## Whole searches -/

section Search

variable {strategies : List Strategy} {projects : Table Project} {changed : Option (List String)}

/-- A search for dependencies fails as looking at its calls does. -/
private theorem dependencies_eq_error_iff_collect {reason : String} :
    dependencies strategies projects changed = .error reason ↔
      collect (fun call => attempt call.1 call.2) (calls strategies (visited projects changed)) =
        .error reason := by
  rw [dependencies, ← gather_eq_collect_calls]
  cases gather strategies (visited projects changed) <;> simp [Except.map]

/-- A search for dependencies fails exactly with what the first call that ends it says. -/
theorem dependencies_eq_error_iff {reason : String} :
    dependencies strategies projects changed = .error reason ↔
      EndedBy (calls strategies (visited projects changed)) reason := by
  rw [dependencies_eq_error_iff_collect, collect_eq_error_iff]
  simp only [ne_eq, attempt_eq_error_iff]
  rfl

/-- Any call that ends a search makes it fail. -/
theorem exists_dependencies_eq_error {p : Project} (hp : p ∈ visited projects changed)
    {s : Strategy} (hs : s ∈ strategies) {reason : String} (h : s.EndsSearch p reason) :
    ∃ first, dependencies strategies projects changed = .error first := by
  obtain ⟨first, hfirst⟩ := exists_collect_eq_error (fun call : Call => attempt call.1 call.2)
    (mem_calls.2 ⟨hp, hs⟩) (attempt_eq_error_iff.2 h)
  exact ⟨first, dependencies_eq_error_iff_collect.2 hfirst⟩

/-- If no call ends the search, what is found is what all calls find, one dependency for each pair,
    and what is said is what the calls that fail say. -/
theorem dependencies_of_calls
    (h : ∀ p ∈ visited projects changed, ∀ s ∈ strategies, ∀ reason, ¬ s.EndsSearch p reason) :
    dependencies strategies projects changed =
      .ok (Resolution.collapse ((calls strategies (visited projects changed)).flatMap
          fun call => call.2.found call.1),
        (calls strategies (visited projects changed)).flatMap fun call =>
          call.2.complaints call.1) := by
  have hcalls : ∀ call ∈ calls strategies (visited projects changed),
      attempt call.1 call.2 = .ok ⟨call.2.found call.1, call.2.complaints call.1⟩ := by
    intro call hcall
    obtain ⟨hp, hs⟩ := mem_calls.1 hcall
    exact attempt_eq_ok (h call.1 hp call.2 hs)
  rw [dependencies, gather_eq_collect_calls, collect_eq_ok hcalls]
  rfl

/-- Strategies that find nothing where others fail make the same calls find the same, and say
    nothing. -/
theorem dependencies_silenced (strategies : List Strategy) (projects : Table Project)
    (changed : Option (List String)) :
    dependencies (strategies.map Strategy.silenced) projects changed =
      .ok (Resolution.collapse ((calls strategies (visited projects changed)).flatMap
        fun call => call.2.found call.1), []) := by
  rw [dependencies_of_calls]
  · simp only [calls, List.map_map, List.flatMap_assoc, List.flatMap_map]
    have hsaid : ∀ p : Project, strategies.flatMap (fun s => s.silenced.complaints p) = [] :=
      fun p => List.flatMap_eq_nil_iff.2 fun s _ => rfl
    simp only [Function.comp_apply, hsaid]
    rw [List.flatMap_eq_nil_iff.2 fun _ _ => rfl]
    rfl
  · intro p _ s hs reason hends
    obtain ⟨s, -, rfl⟩ := List.mem_map.1 hs
    cases hends

/-- Two projects are joined exactly if some call that does not fail joins them. -/
theorem mem_ends_collapse_iff {pair : String × String} :
    pair ∈ (Resolution.collapse ((calls strategies (visited projects changed)).flatMap
        fun call => call.2.found call.1)).map Dependency.ends ↔
      ∃ p ∈ visited projects changed, ∃ s ∈ strategies, ∃ resolutions,
        s.find p = .ok resolutions ∧ ∃ d ∈ Resolution.dependencies resolutions, d.ends = pair := by
  constructor
  · intro h
    obtain ⟨d, hd, hends⟩ := List.mem_map.1 h
    have hd := mem_of_mem_distinctBy hd
    rw [Resolution.dependencies_flatMap] at hd
    obtain ⟨⟨p, s⟩, hcall, hd⟩ := List.mem_flatMap.1 hd
    obtain ⟨hp, hs⟩ := mem_calls.1 hcall
    cases hfind : s.find p with
    | ok resolutions =>
      rw [Strategy.found_eq hfind] at hd
      exact ⟨p, hp, s, hs, resolutions, hfind, d, hd, hends⟩
    | error e =>
      rw [Strategy.found, hfind] at hd
      exact absurd hd List.not_mem_nil
  · rintro ⟨p, hp, s, hs, resolutions, hfind, d, hd, rfl⟩
    refine key_mem_distinctBy ?_
    rw [Resolution.dependencies_flatMap]
    refine List.mem_flatMap.2 ⟨(p, s), mem_calls.2 ⟨hp, hs⟩, ?_⟩
    rw [Strategy.found_eq hfind]
    exact hd

/-! ## Failures mended -/

/-- Where failures are mended, what is found without them and with them is related if that is so
    call by call. -/
theorem dependencies_sameUpTo_mended {R : List Resolution → List Resolution → Prop}
    (blockwise : IsBlockwise R) {S : List Dependency → List Dependency → Prop}
    (collapse : ∀ as bs, R as bs → S (Resolution.collapse as) (Resolution.collapse bs))
    {mended : List Strategy}
    (h : List.Forall₂ (fun s s' => ∀ p ∈ visited projects changed,
      s'.Mends s p ∧ R (s.found p) (s'.found p)) strategies mended) :
    ∃ all, dependencies mended projects changed = .ok (all, []) ∧
      S (Resolution.collapse ((calls strategies (visited projects changed)).flatMap
        fun call => call.2.found call.1)) all := by
  have hrelated : ∀ p ∈ visited projects changed,
      List.Forall₂ (StrategiesRelated R p) (strategies.map Strategy.silenced) mended := by
    intro p hp
    rw [List.forall₂_map_left_iff]
    refine h.imp fun s s' hs => ⟨(hs p hp).1.name.symm, ?_⟩
    rw [(hs p hp).1.find_eq]
    exact .ok (hs p hp).2
  have hsame := dependencies_sameUpTo blockwise collapse hrelated
  rw [dependencies_silenced] at hsame
  -- the silenced run succeeds, and so does the one it is compared with
  generalize dependencies mended projects changed = answer at hsame
  cases hsame with
  | @ok _ found related =>
    obtain ⟨all, warnings⟩ := found
    obtain ⟨hrelated, rfl⟩ := related
    exact ⟨all, rfl, hrelated⟩

/-- What is found although some calls fail. -/
structure FoundDespiteFailures (strategies : List Strategy) (projects : Table Project)
    (changed : Option (List String)) (found : List Dependency) (warnings : List String) :
    Prop where
  /-- It is what would be found if the calls that fail found nothing. -/
  silenced : dependencies (strategies.map Strategy.silenced) projects changed = .ok (found, [])
  /-- Every failure is said, in the order of the calls. -/
  warnings_eq : warnings = (calls strategies (visited projects changed)).flatMap
    fun call => call.2.complaints call.1
  /-- Two projects are joined exactly if a call that does not fail joins them. -/
  joined_iff : ∀ pair, pair ∈ found.map Dependency.ends ↔
    ∃ p ∈ visited projects changed, ∃ s ∈ strategies, ∃ resolutions,
      s.find p = .ok resolutions ∧ ∃ d ∈ Resolution.dependencies resolutions, d.ends = pair
  /-- However the failures are mended, no pair is joined that would not be joined then. -/
  joins_no_more : ∀ mended, List.Forall₂ (fun s s' => ∀ p ∈ visited projects changed,
      s'.Mends s p) strategies mended →
    ∃ all, dependencies mended projects changed = .ok (all, []) ∧
      found.map Dependency.ends ⊆ all.map Dependency.ends
  /-- Pairs that the calls that fail would not have joined keep their dependencies, with their
      evidence and in their order. -/
  undisturbed : ∀ mended (chosen : String × String → Bool),
    List.Forall₂ (fun s s' => ∀ p ∈ visited projects changed, s'.Mends s p ∧
      ((∃ e, s.find p = .error e) →
        ∀ d ∈ Resolution.dependencies (s'.found p), chosen d.ends = false)) strategies mended →
    ∃ all, dependencies mended projects changed = .ok (all, []) ∧
      found.filter (fun d => chosen d.ends) = all.filter fun d => chosen d.ends

/-- Some resolutions give the same dependencies as others between chosen pairs. -/
private def SameAmong (chosen : String × String → Bool) (as bs : List Resolution) : Prop :=
  (Resolution.dependencies as).filter (fun d => chosen d.ends) =
    (Resolution.dependencies bs).filter fun d => chosen d.ends

private theorem isBlockwise_sameAmong (chosen : String × String → Bool) :
    IsBlockwise (SameAmong chosen) where
  nil := rfl
  append := by
    intro as bs cs ds hfirst hsecond
    unfold SameAmong at *
    rw [Resolution.dependencies_append, Resolution.dependencies_append, List.filter_append,
      List.filter_append, hfirst, hsecond]

private theorem filter_collapse_eq {chosen : String × String → Bool} {as bs : List Resolution}
    (h : SameAmong chosen as bs) :
    (Resolution.collapse as).filter (fun d => chosen d.ends) =
      (Resolution.collapse bs).filter fun d => chosen d.ends := by
  rw [Resolution.collapse, Resolution.collapse, filter_distinctBy, filter_distinctBy, h]

/-- What is found if no call ends the search. -/
theorem foundDespiteFailures :
    FoundDespiteFailures strategies projects changed
      (Resolution.collapse ((calls strategies (visited projects changed)).flatMap
        fun call => call.2.found call.1))
      ((calls strategies (visited projects changed)).flatMap fun call =>
        call.2.complaints call.1) where
  silenced := dependencies_silenced strategies projects changed
  warnings_eq := rfl
  joined_iff _ := mem_ends_collapse_iff
  joins_no_more mended h := by
    refine dependencies_sameUpTo_mended (S := fun few many =>
      few.map Dependency.ends ⊆ many.map Dependency.ends) Resolution.isBlockwise_joinsNoMore
      (fun _ _ => Resolution.ends_collapse_subset) (h.imp fun s s' hs p hp => ⟨hs p hp, ?_⟩)
    rcases (hs p hp).found_cases with hfound | ⟨-, hnone⟩
    · rw [hfound]
      exact Resolution.JoinsNoMore.refl _
    · rw [hnone]
      exact List.nil_subset _
  undisturbed mended chosen h := by
    refine dependencies_sameUpTo_mended (S := fun few many =>
      few.filter (fun d => chosen d.ends) = many.filter fun d => chosen d.ends)
      (isBlockwise_sameAmong chosen) (fun _ _ => filter_collapse_eq)
      (h.imp fun s s' hs p hp => ⟨(hs p hp).1, ?_⟩)
    unfold SameAmong
    rcases (hs p hp).1.found_cases with hfound | ⟨hfails, hnone⟩
    · rw [hfound]
    · have hsilent : (Resolution.dependencies (s'.found p)).filter (fun d => chosen d.ends) = [] :=
        List.filter_eq_nil_iff.2 fun d hd => by simp [(hs p hp).2 hfails d hd]
      rw [hnone, hsilent]
      rfl

end Search

/-- Whatever the strategies are and for whichever projects they fail. A call that finds that the
    settings cannot be used ends the search, which finds nothing then; of several the first counts.
    If there is no such call, the search succeeds, and finds what it would find if every call that
    fails had found nothing: what the other calls find is kept, for the same project and for others,
    and no pair of projects is joined that would not be joined without the failures. -/
theorem failed_calls_cost_only_their_own (strategies : List Strategy) (projects : Table Project)
    (changed : Option (List String)) :
    (∀ reason, dependencies strategies projects changed = .error reason ↔
      EndedBy (calls strategies (visited projects changed)) reason) ∧
    (∀ p ∈ visited projects changed, ∀ s ∈ strategies, ∀ reason, s.EndsSearch p reason →
      ∃ first, dependencies strategies projects changed = .error first) ∧
    ((∀ p ∈ visited projects changed, ∀ s ∈ strategies, ∀ reason, ¬ s.EndsSearch p reason) →
      ∃ found warnings, dependencies strategies projects changed = .ok (found, warnings) ∧
        FoundDespiteFailures strategies projects changed found warnings) := by
  refine ⟨fun _ => dependencies_eq_error_iff, ?_, ?_⟩
  · intro p hp s hs reason hends
    exact exists_dependencies_eq_error hp hs hends
  · intro h
    exact ⟨_, _, dependencies_of_calls h, foundDespiteFailures⟩

/-- A strategy that cannot read the program. -/
def unreadableSources : Strategy where
  name := "sources"
  find p := if p.name = "app" then .error (.recoverable "no such file") else .ok []

/-- A strategy that finds that the program refers to the library. -/
def listedFlags : Strategy where
  name := "flags"
  find p := .ok <|
    if p.name = "app" then [⟨"app", "../lib/lib.h", .resolved Graph.usesLibrary⟩] else []

/-- A strategy that wants a compiler. -/
def missingCompiler : Strategy where
  name := "compiler"
  find _ := .error (.configuration "no compiler")

/-- The program's sources cannot be read, and yet the library is found, by the other strategy. If a
    third strategy wants a compiler, nothing is found. -/
theorem failed_calls_cost_only_their_own_sample :
    (∀ p ∈ visited sampleProjects none, ∀ s ∈ [unreadableSources, listedFlags], ∀ reason,
      ¬ s.EndsSearch p reason) ∧
    (∃ found warnings,
      dependencies [unreadableSources, listedFlags] sampleProjects none = .ok (found, warnings) ∧
        ("app", "lib") ∈ found.map Dependency.ends) ∧
    ∃ first, dependencies [unreadableSources, listedFlags, missingCompiler] sampleProjects none =
      .error first := by
  have hgoesOn : ∀ p ∈ visited sampleProjects none, ∀ s ∈ [unreadableSources, listedFlags],
      ∀ reason, ¬ s.EndsSearch p reason := by
    intro p _ s hs reason hends
    rcases List.mem_pair.1 hs with rfl | rfl
    · -- the failure to read is no matter of settings
      simp only [Strategy.EndsSearch, unreadableSources] at hends
      split at hends <;> cases hends
    · cases hends
  have happ : (⟨"app", "app"⟩ : Project) ∈ visited sampleProjects none := List.mem_cons_self
  refine ⟨hgoesOn, ?_, ?_⟩
  · obtain ⟨found, warnings, hfound, hdespite⟩ :=
      (failed_calls_cost_only_their_own _ _ none).2.2 hgoesOn
    refine ⟨found, warnings, hfound, (hdespite.joined_iff _).2 ?_⟩
    exact ⟨_, happ, listedFlags, by simp, _, rfl, _, List.mem_cons_self, rfl⟩
  · exact (failed_calls_cost_only_their_own _ _ none).2.1 _ happ missingCompiler (by simp)
      "no compiler" rfl

end Inference

end MakeAtlas
