import MakeAtlas.Graph.Cycle
import Mathlib.Data.List.Chain
import Mathlib.Data.List.Nodup
import Mathlib.Data.List.Perm.Subperm

/-!
# What the search for cycles finds

From a start, the search follows every way through free projects and back. It leaves out projects
that no way leads back from, which are on no cycle, and it has room for as many steps as there are
free projects. So what it finds are the trails that can be closed, and each of them once.

## Key results

- `mem_reaching_iff`: from which projects some frontier can be reached
- `cyclesAlong_some_eq_take`: stopping early cuts the list of what is found
- `mem_cyclesAlong_iff`: what is found from a trail on
- `nodup_cyclesAlong`: nothing is found twice
- `mem_starts_iff`: with every project, those after it are free
-/

namespace MakeAtlas.Graph

variable {next : String → List String} {start : String}

/-! ## Leading back -/

/-- From a project some frontier can be reached through projects of a list. -/
inductive LeadsTo (next : String → List String) (rest frontier : List String) : String → Prop where
  | last {name other : String} (hname : name ∈ rest) (hnext : other ∈ next name)
      (hother : other ∈ frontier) : LeadsTo next rest frontier name
  | further {name other : String} (hname : name ∈ rest) (hnext : other ∈ next name)
      (hother : LeadsTo next rest frontier other) : LeadsTo next rest frontier name

theorem mem_leadingTo_iff {name other : String} {rest : List String} :
    other ∈ leadingTo next name rest ↔ other ∈ rest ∧ name ∈ next other := by
  simp [leadingTo]

theorem mem_notLeadingTo_iff {name other : String} {rest : List String} :
    other ∈ notLeadingTo next name rest ↔ other ∈ rest ∧ name ∉ next other := by
  simp [notLeadingTo]

/-- One project of the frontier is enough to look at first: what leads to it joins the frontier, and
    only the others are left to be asked. -/
theorem leadsTo_cons_iff {name other : String} {rest more : List String} :
    LeadsTo next rest (name :: more) other ↔
      other ∈ leadingTo next name rest ∨
        LeadsTo next (notLeadingTo next name rest) (more ++ leadingTo next name rest) other := by
  constructor
  · intro h
    induction h with
    | @last a b ha hnext hb =>
      by_cases hname : name ∈ next a
      · exact Or.inl (mem_leadingTo_iff.2 ⟨ha, hname⟩)
      · have hmore : b ∈ more := (List.mem_cons.1 hb).resolve_left fun heq => hname (heq ▸ hnext)
        exact Or.inr (.last (mem_notLeadingTo_iff.2 ⟨ha, hname⟩) hnext
          (List.mem_append_left _ hmore))
    | @further a b ha hnext _ ih =>
      by_cases hname : name ∈ next a
      · exact Or.inl (mem_leadingTo_iff.2 ⟨ha, hname⟩)
      · have hleft := mem_notLeadingTo_iff.2 ⟨ha, hname⟩
        rcases ih with hb | hb
        · exact Or.inr (.last hleft hnext (List.mem_append_right _ hb))
        · exact Or.inr (.further hleft hnext hb)
  · rintro (h | h)
    · obtain ⟨hrest, hname⟩ := mem_leadingTo_iff.1 h
      exact .last hrest hname List.mem_cons_self
    · induction h with
      | @last a b ha hnext hb =>
        have hrest := (mem_notLeadingTo_iff.1 ha).1
        rcases List.mem_append.1 hb with hb | hb
        · exact .last hrest hnext (List.mem_cons_of_mem _ hb)
        · obtain ⟨hb, hname⟩ := mem_leadingTo_iff.1 hb
          exact .further hrest hnext (.last hb hname List.mem_cons_self)
      | @further a b ha hnext _ ih => exact .further (mem_notLeadingTo_iff.1 ha).1 hnext ih

/-- The members of a list from which a frontier can be reached inside the list are those that lead
    to it. -/
theorem mem_reaching_iff {rest frontier : List String} {name : String} :
    name ∈ reaching next rest frontier ↔ LeadsTo next rest frontier name := by
  fun_induction reaching next rest frontier with
  | case1 rest =>
    simp only [List.not_mem_nil, false_iff]
    intro h
    induction h with
    | last _ _ hother => exact nomatch hother
    | further _ _ _ ih => exact ih
  | case2 rest first more _ ih => rw [List.mem_append, ih, leadsTo_cons_iff]

theorem mem_of_mem_reaching {rest frontier : List String} {name : String}
    (h : name ∈ reaching next rest frontier) : name ∈ rest := by
  cases mem_reaching_iff.1 h with
  | last hname => exact hname
  | further hname => exact hname

theorem nodup_reaching {rest : List String} (h : rest.Nodup) (frontier : List String) :
    (reaching next rest frontier).Nodup := by
  fun_induction reaching next rest frontier with
  | case1 rest => exact List.nodup_nil
  | case2 rest name more _ ih =>
    refine List.nodup_append.2 ⟨h.filter _, ih (h.filter _), ?_⟩
    rintro other hleading _ hreaching rfl
    exact (mem_notLeadingTo_iff.1 (mem_of_mem_reaching hreaching)).2
      (mem_leadingTo_iff.1 hleading).2

/-- All projects on a way through a list to a frontier lead to it. -/
theorem leadsTo_of_isChain {rest frontier path : List String} {last : String}
    (hrest : ∀ name ∈ path, name ∈ rest) (hlast : last ∈ frontier)
    (hchain : List.IsChain (fun a b => b ∈ next a) (path ++ [last])) :
    ∀ name ∈ path, LeadsTo next rest frontier name := by
  induction path with
  | nil => exact fun _ hname => nomatch hname
  | cons name path ih =>
    rw [List.forall_mem_cons] at hrest
    have hpath := ih hrest.2 hchain.tail
    refine List.forall_mem_cons.2 ⟨?_, hpath⟩
    cases path with
    | nil =>
      rw [List.cons_append, List.nil_append, List.isChain_pair] at hchain
      exact .last hrest.1 hchain hlast
    | cons other path =>
      rw [List.cons_append, List.cons_append, List.isChain_cons_cons] at hchain
      exact .further hrest.1 hchain.1 (hpath other List.mem_cons_self)

/-! ## Following a trail -/

/-- Stopping early cuts the list of what is found from a trail on. -/
theorem cyclesAlong_some_eq_take (room n : Nat) (free trail : List String) :
    cyclesAlong next start room free trail (some n) =
      (cyclesAlong next start room free trail none).take n := by
  induction room generalizing n free trail with
  | zero => rfl
  | succ room ih =>
    rw [cyclesAlong, cyclesAlong, gather_eq, gather_eq]
    · rfl
    all_goals
      intro m name
      split
      · rfl
      · split
        · exact ih m _ _
        · simp

/-- The next step of a trail closes it, or goes on to a project from which the start can be
    reached. -/
theorem cyclesAlong_succ (room : Nat) (free trail : List String) :
    cyclesAlong next start (room + 1) free trail none =
      (next (trail.headD start)).flatMap fun name =>
        if name = start then [trail.reverse]
        else if name ∈ reaching next free [start] then
          cyclesAlong next start room ((reaching next free [start]).erase name) (name :: trail) none
        else [] := by
  rw [cyclesAlong, gather_eq]
  · simp only [upTo, List.contains_eq_mem, decide_eq_true_eq]
  · intro m name
    split
    · rfl
    · split
      · exact cyclesAlong_some_eq_take room m _ _
      · simp

/-- Going on through some projects, each once, closes a trail. -/
structure Closes (next : String → List String) (start : String) (free trail path : List String) :
    Prop where
  nodup : path.Nodup
  free : ∀ name ∈ path, name ∈ free
  chain : List.IsChain (fun a b => b ∈ next a) (trail.headD start :: (path ++ [start]))

/-- Where a way that closes a trail begins with a step to a project, the rest of the way closes the
    trail with that project, and stays within the projects that lead back to the start. -/
theorem closes_cons_iff {free trail path : List String} {name : String} (hfree : free.Nodup) :
    Closes next start free trail (name :: path) ↔
      name ∈ next (trail.headD start) ∧ name ∈ reaching next free [start] ∧
        Closes next start ((reaching next free [start]).erase name) (name :: trail) path := by
  have huseful : (reaching next free [start]).Nodup := nodup_reaching hfree [start]
  constructor
  · rintro ⟨hnodup, hmem, hchain⟩
    rw [List.cons_append, List.isChain_cons_cons] at hchain
    have hleads := leadsTo_of_isChain hmem (List.mem_singleton_self start) hchain.2
    rw [List.nodup_cons] at hnodup
    rw [List.forall_mem_cons] at hleads
    refine ⟨hchain.1, mem_reaching_iff.2 hleads.1, hnodup.2, ?_, hchain.2⟩
    intro other hother
    have hne : other ≠ name := fun heq => hnodup.1 (heq ▸ hother)
    exact huseful.mem_erase_iff.2 ⟨hne, mem_reaching_iff.2 (hleads.2 other hother)⟩
  · rintro ⟨hstep, hname, hnodup, hmem, hchain⟩
    have hpath : ∀ other ∈ path, other ≠ name ∧ other ∈ free := by
      intro other hother
      obtain ⟨hne, hreaching⟩ := huseful.mem_erase_iff.1 (hmem other hother)
      exact ⟨hne, mem_of_mem_reaching hreaching⟩
    refine ⟨?_, ?_, ?_⟩
    · exact List.nodup_cons.2 ⟨fun hother => (hpath name hother).1 rfl, hnodup⟩
    · exact List.forall_mem_cons.2
        ⟨mem_of_mem_reaching hname, fun other hother => (hpath other hother).2⟩
    · rw [List.cons_append, List.isChain_cons_cons]
      exact ⟨hstep, hchain⟩

theorem closes_nil_iff {free trail : List String} :
    Closes next start free trail [] ↔ start ∈ next (trail.headD start) := by
  constructor
  · rintro ⟨-, -, hchain⟩
    exact List.isChain_pair.1 hchain
  · intro h
    exact ⟨List.nodup_nil, List.forall_mem_nil _, List.isChain_pair.2 h⟩

/-- With room for all that is free, the search finds exactly what a trail can be closed to. -/
theorem mem_cyclesAlong_iff {room : Nat} {free trail cycle : List String}
    (hroom : free.length ≤ room) (hfree : free.Nodup) (hstart : start ∉ free) :
    cycle ∈ cyclesAlong next start room free trail none ↔
      ∃ path, Closes next start free trail path ∧ cycle = trail.reverse ++ path := by
  induction room generalizing free trail with
  | zero =>
    -- nothing is free, so that the trail can only be closed as it is
    rw [Nat.le_zero, List.length_eq_zero_iff] at hroom
    subst hroom
    have hpath : ∀ path, Closes next start [] trail path ↔
        path = [] ∧ start ∈ next (trail.headD start) := by
      intro path
      cases path with
      | nil => simp [closes_nil_iff]
      | cons name path =>
        simp only [reduceCtorEq, false_and, iff_false]
        exact fun h => List.not_mem_nil (h.free name List.mem_cons_self)
    simp only [hpath, cyclesAlong, upTo, List.contains_eq_mem, decide_eq_true_eq]
    split
    · next hclosed =>
      simp only [hclosed, and_true, exists_eq_left, List.append_nil, List.mem_singleton]
    · next hopen => simp only [hopen, and_false, false_and, exists_false, List.not_mem_nil]
  | succ room ih =>
    have huseful : (reaching next free [start]).Nodup := nodup_reaching hfree [start]
    have hnot : start ∉ reaching next free [start] := fun h => hstart (mem_of_mem_reaching h)
    -- what is free after a step is less, and the start is still not among it
    have hstep : ∀ name ∈ reaching next free [start],
        (cycle ∈ cyclesAlong next start room ((reaching next free [start]).erase name)
            (name :: trail) none ↔
          ∃ path, Closes next start ((reaching next free [start]).erase name) (name :: trail) path ∧
            cycle = trail.reverse ++ name :: path) := by
      intro name hname
      have hlength : (reaching next free [start]).length ≤ free.length :=
        (huseful.subperm fun _ h => mem_of_mem_reaching h).length_le
      have hshorter := List.length_erase_of_mem hname
      have hpos := List.length_pos_of_mem hname
      rw [ih (by omega) (huseful.erase name) fun h => hnot (List.mem_of_mem_erase h)]
      simp only [List.reverse_cons, List.append_assoc, List.singleton_append]
    rw [cyclesAlong_succ, List.mem_flatMap]
    constructor
    · rintro ⟨name, hnext, hcycle⟩
      by_cases hname : name = start
      · rw [if_pos hname, List.mem_singleton] at hcycle
        exact ⟨[], closes_nil_iff.2 (hname ▸ hnext), by rw [hcycle, List.append_nil]⟩
      · rw [if_neg hname] at hcycle
        split at hcycle
        · next hreaching =>
          obtain ⟨path, hpath, rfl⟩ := (hstep name hreaching).1 hcycle
          exact ⟨name :: path, (closes_cons_iff hfree).2 ⟨hnext, hreaching, hpath⟩, rfl⟩
        · cases hcycle
    · rintro ⟨path, hpath, rfl⟩
      cases path with
      | nil =>
        refine ⟨start, closes_nil_iff.1 hpath, ?_⟩
        rw [if_pos rfl, List.append_nil, List.mem_singleton]
      | cons name path =>
        obtain ⟨hnext, hreaching, hrest⟩ := (closes_cons_iff hfree).1 hpath
        have hname : name ≠ start := fun heq => hnot (heq ▸ hreaching)
        refine ⟨name, hnext, ?_⟩
        rw [if_neg hname, if_pos hreaching, hstep name hreaching]
        exact ⟨path, hrest, rfl⟩

/-- All that is found from a trail on begins with the trail. -/
theorem prefix_of_mem_cyclesAlong {room : Nat} {free trail cycle : List String}
    (h : cycle ∈ cyclesAlong next start room free trail none) : trail.reverse <+: cycle := by
  induction room generalizing free trail with
  | zero =>
    simp only [cyclesAlong, upTo] at h
    split at h
    · rw [List.mem_singleton] at h
      exact h ▸ List.prefix_rfl
    · cases h
  | succ room ih =>
    rw [cyclesAlong_succ, List.mem_flatMap] at h
    obtain ⟨name, -, h⟩ := h
    split at h
    · rw [List.mem_singleton] at h
      exact h ▸ List.prefix_rfl
    · split at h
      · have hlonger := ih h
        rw [List.reverse_cons] at hlonger
        exact (List.prefix_append _ _).trans hlonger
      · cases h

/-- Nothing is found twice: different steps lead to cycles that differ at that place. -/
theorem nodup_cyclesAlong (hnext : ∀ name, (next name).Nodup) (room : Nat)
    (free trail : List String) : (cyclesAlong next start room free trail none).Nodup := by
  induction room generalizing free trail with
  | zero =>
    simp only [cyclesAlong, upTo]
    split
    · exact List.nodup_singleton _
    · exact List.nodup_nil
  | succ room ih =>
    rw [cyclesAlong_succ, List.nodup_flatMap]
    constructor
    · intro name _
      split
      · exact List.nodup_singleton _
      · split
        · exact ih _ _
        · exact List.nodup_nil
    · -- what a cycle has at the place of the step tells the step
      refine (hnext (trail.headD start)).imp fun {a b} hne cycle ha hb => hne ?_
      have hplace : ∀ name, (cycle ∈ if name = start then [trail.reverse]
          else if name ∈ reaching next free [start] then
            cyclesAlong next start room ((reaching next free [start]).erase name)
              (name :: trail) none
          else []) → name = (cycle[trail.length]?).getD start := by
        intro name hcycle
        split at hcycle
        · next hname =>
          rw [List.mem_singleton] at hcycle
          simp [hcycle, hname]
        · split at hcycle
          · obtain ⟨path, rfl⟩ := prefix_of_mem_cyclesAlong hcycle
            simp
          · cases hcycle
      exact (hplace a ha).trans (hplace b hb).symm

/-! ## Starting -/

/-- With every project, those after it are free. -/
theorem mem_starts_iff {names free : List String} :
    (start, free) ∈ starts names ↔ ∃ before, names = before ++ start :: free := by
  induction names with
  | nil => simp [starts]
  | cons name names ih =>
    rw [starts, List.mem_cons, ih, Prod.mk.injEq]
    constructor
    · rintro (⟨rfl, rfl⟩ | ⟨before, rfl⟩)
      · exact ⟨[], rfl⟩
      · exact ⟨name :: before, rfl⟩
    · rintro ⟨before, h⟩
      cases before with
      | nil =>
        obtain ⟨rfl, rfl⟩ := List.cons.inj h
        exact Or.inl ⟨rfl, rfl⟩
      | cons _ before => exact Or.inr ⟨before, (List.cons.inj h).2⟩

theorem map_fst_starts (names : List String) : (starts names).map Prod.fst = names := by
  induction names with
  | nil => rfl
  | cons name names ih => rw [starts, List.map_cons, ih]

/-- Stopping early cuts the list of the cycles of a graph. -/
theorem cyclesUpTo_some_eq_take (g : Graph) (n : Nat) :
    g.cyclesUpTo (some n) = (g.cyclesUpTo none).take n := by
  rw [cyclesUpTo, cyclesUpTo, gather_eq, gather_eq]
  · rfl
  all_goals exact fun m pair => cyclesAlong_some_eq_take _ m _ _

theorem cyclesUpTo_none (g : Graph) :
    g.cyclesUpTo none = (starts g.nodes.keys).flatMap fun pair =>
      cyclesAlong g.successors pair.1 pair.2.length pair.2 [pair.1] none := by
  rw [cyclesUpTo, gather_eq]
  · rfl
  · exact fun m pair => cyclesAlong_some_eq_take _ m _ _

end MakeAtlas.Graph
