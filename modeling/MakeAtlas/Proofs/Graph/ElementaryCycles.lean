import MakeAtlas.Proofs.Graph.Changes
import MakeAtlas.Proofs.Graph.CycleSearch
import Mathlib.Data.List.Cycle
import Mathlib.Data.Set.Card

/-!
# Elementary cycles of a graph

An elementary cycle is a round of different projects each of which depends on the next. Where a
round begins is no matter of the cycle, so cycles are lists up to rotation. Of the rotations of a
cycle, the search finds the one that begins with the project that comes first in the graph.

## Key results

- `mem_cyclesUpTo_iff`: what the search over all starts finds
- `isEnumeration_cycles`: every elementary cycle is found once, or as many as a limit allows
- `exists_isElementary_iff`: a graph has an elementary cycle if some project depends on itself in
  the end
-/

namespace MakeAtlas.Graph

/-! ## Cycles -/

/-- One project depends on another. -/
def DependsOn (g : Graph) (source target : String) : Prop :=
  (source, target) ∈ g.edges.map Dependency.ends

/-- A round of different projects, at least one, each of which depends on the next. -/
structure IsElementary (g : Graph) (c : Cycle String) : Prop where
  ne_nil : c ≠ Cycle.nil
  nodup : c.Nodup
  chain : c.Chain g.DependsOn

variable {g : Graph}

theorem isElementary_cons_iff {name : String} {names : List String} :
    g.IsElementary ((name :: names : List String) : Cycle String) ↔
      (name :: names).Nodup ∧ List.IsChain g.DependsOn (name :: (names ++ [name])) := by
  constructor
  · rintro ⟨-, hnodup, hchain⟩
    exact ⟨Cycle.nodup_coe_iff.1 hnodup, (Cycle.chain_coe_cons _ _ _).1 hchain⟩
  · rintro ⟨hnodup, hchain⟩
    refine ⟨?_, Cycle.nodup_coe_iff.2 hnodup, (Cycle.chain_coe_cons _ _ _).2 hchain⟩
    rw [Ne, Cycle.coe_eq_nil]
    exact List.cons_ne_nil _ _

/-- A cycle may begin with any of its members. -/
theorem exists_eq_coe_cons {α : Type} {c : Cycle α} {a : α} (ha : a ∈ c) :
    ∃ rest : List α, c = ((a :: rest : List α) : Cycle α) := by
  obtain ⟨names, rfl⟩ : ∃ names : List α, (names : Cycle α) = c := Quotient.mk''_surjective c
  obtain ⟨before, after, rfl⟩ := List.append_of_mem (Cycle.mem_coe_iff.1 ha)
  exact ⟨after ++ before, Cycle.coe_eq_coe.2 List.isRotated_append⟩

theorem exists_mem_of_isElementary {c : Cycle String} (h : g.IsElementary c) :
    ∃ name, name ∈ c := by
  obtain ⟨names, rfl⟩ : ∃ names : List String, (names : Cycle String) = c :=
    Quotient.mk''_surjective c
  cases names with
  | nil => exact absurd rfl h.ne_nil
  | cons name names => exact ⟨name, Cycle.mem_coe_iff.2 List.mem_cons_self⟩

/-- Every project on an elementary cycle depends on some project. -/
theorem exists_dependsOn_of_mem {c : Cycle String} (h : g.IsElementary c) {name : String}
    (hname : name ∈ c) : ∃ other, g.DependsOn name other := by
  obtain ⟨after, rfl⟩ := exists_eq_coe_cons hname
  obtain ⟨other, rest, hrest⟩ := List.exists_cons_of_ne_nil
    (List.append_ne_nil_of_right_ne_nil after (List.cons_ne_nil name []))
  have hchain := (isElementary_cons_iff.1 h).2
  rw [hrest, List.isChain_cons_cons] at hchain
  exact ⟨other, hchain.1⟩

theorem mem_successors_iff {source target : String} :
    target ∈ g.successors source ↔ g.DependsOn source target := by
  simp only [successors, edgesFrom, DependsOn, List.mem_map, List.mem_filter, beq_iff_eq,
    Dependency.ends, Prod.mk.injEq, and_assoc]

theorem nodup_successors (h : Coherent g) (name : String) : (g.successors name).Nodup := by
  have hends : ((g.edgesFrom name).map Dependency.ends).Nodup :=
    h.ends_nodup.sublist (List.filter_sublist.map _)
  rw [successors]
  rw [List.Nodup, List.pairwise_map] at hends ⊢
  refine hends.imp_of_mem fun {d e} hd he hne htarget => hne ?_
  -- dependencies of one project differ in their targets if they differ in their ends
  have hsource : d.source = e.source := by
    rw [beq_iff_eq.1 (List.mem_filter.1 hd).2, beq_iff_eq.1 (List.mem_filter.1 he).2]
  rw [Dependency.ends, Dependency.ends, hsource, htarget]

theorem known_of_dependsOn (h : Coherent g) {source target : String}
    (hdepends : g.DependsOn source target) : source ∈ g.nodes.keys := by
  obtain ⟨d, hd, hends⟩ := List.mem_map.1 hdepends
  rw [← (Prod.mk.inj hends).1]
  exact (h.ends_known d hd).1

/-! ## What is found -/

/-- The search finds the rounds that begin with the first of their projects in the graph. -/
theorem mem_cyclesUpTo_iff (h : Coherent g) {cycle : List String} :
    cycle ∈ g.cyclesUpTo none ↔ ∃ before start after path,
      g.nodes.keys = before ++ start :: after ∧ cycle = start :: path ∧
        (∀ name ∈ path, name ∈ after) ∧
        g.IsElementary ((start :: path : List String) : Cycle String) := by
  rw [cyclesUpTo_none, List.mem_flatMap]
  have hnames := h.names_nodup
  have hclosed : ∀ before start after, g.nodes.keys = before ++ start :: after →
      (cycle ∈ cyclesAlong g.successors start after.length after [start] none ↔
        ∃ path, cycle = start :: path ∧ (∀ name ∈ path, name ∈ after) ∧
          g.IsElementary ((start :: path : List String) : Cycle String)) := by
    intro before start after hkeys
    rw [hkeys] at hnames
    obtain ⟨hstart, hafter⟩ := List.nodup_cons.1 (List.nodup_append.1 hnames).2.1
    rw [mem_cyclesAlong_iff le_rfl hafter hstart]
    refine exists_congr fun path => ?_
    have hchain : List.IsChain (fun a b => b ∈ g.successors a) (start :: (path ++ [start])) ↔
        List.IsChain g.DependsOn (start :: (path ++ [start])) :=
      List.IsChain.iff fun _ _ => mem_successors_iff
    rw [isElementary_cons_iff, List.nodup_cons]
    constructor
    · rintro ⟨⟨hnodup, hfree, hclosed⟩, rfl⟩
      exact ⟨rfl, hfree, ⟨fun hmem => hstart (hfree start hmem), hnodup⟩, hchain.1 hclosed⟩
    · rintro ⟨rfl, hfree, ⟨-, hnodup⟩, hclosed⟩
      exact ⟨⟨hnodup, hfree, hchain.2 hclosed⟩, rfl⟩
  constructor
  · rintro ⟨⟨start, after⟩, hpair, hcycle⟩
    obtain ⟨before, hkeys⟩ := mem_starts_iff.1 hpair
    obtain ⟨path, hpath⟩ := (hclosed before start after hkeys).1 hcycle
    exact ⟨before, start, after, path, hkeys, hpath⟩
  · rintro ⟨before, start, after, path, hkeys, hpath⟩
    exact ⟨(start, after), mem_starts_iff.2 ⟨before, hkeys⟩,
      (hclosed before start after hkeys).2 ⟨path, hpath⟩⟩

/-- A list has a first member of some kind, if it has one. -/
theorem exists_first {α : Type} {xs : List α} {P : α → Prop} (h : ∃ x ∈ xs, P x) :
    ∃ before x after, xs = before ++ x :: after ∧ P x ∧ ∀ y ∈ before, ¬ P y := by
  classical
  obtain ⟨x, hx, hP⟩ := h
  cases hfind : xs.find? (fun y => decide (P y)) with
  | none => exact absurd (decide_eq_true hP) (List.find?_eq_none.1 hfind x hx)
  | some first =>
    obtain ⟨hfirst, before, after, rfl, hbefore⟩ := List.find?_eq_some_iff_append.1 hfind
    exact ⟨before, first, after, rfl, by simpa using hfirst, by simpa using hbefore⟩

/-- Every elementary cycle is found. -/
theorem exists_mem_cyclesUpTo (h : Coherent g) {c : Cycle String} (hc : g.IsElementary c) :
    ∃ cycle ∈ g.cyclesUpTo none, (cycle : Cycle String) = c := by
  have hknown : ∀ name ∈ c, name ∈ g.nodes.keys := fun name hname =>
    known_of_dependsOn h (exists_dependsOn_of_mem hc hname).choose_spec
  -- the round begins with the first of its projects, and goes on through later ones
  have hsome : ∃ name ∈ g.nodes.keys, name ∈ c := by
    obtain ⟨name, hname⟩ := exists_mem_of_isElementary hc
    exact ⟨name, hknown name hname, hname⟩
  obtain ⟨before, start, after, hkeys, hstart, hbefore⟩ := exists_first hsome
  obtain ⟨path, rfl⟩ := exists_eq_coe_cons hstart
  refine ⟨start :: path, ?_, rfl⟩
  refine (mem_cyclesUpTo_iff h).2 ⟨before, start, after, path, hkeys, rfl, ?_, hc⟩
  intro name hname
  have hmem := Cycle.mem_coe_iff.2 (List.mem_cons_of_mem start hname)
  have hne : name ≠ start := by
    rintro rfl
    exact (List.nodup_cons.1 (isElementary_cons_iff.1 hc).1).1 hname
  have hkey := hknown name hmem
  rw [hkeys, List.mem_append, List.mem_cons] at hkey
  rcases hkey with hkey | hkey | hkey
  · exact absurd hmem (hbefore name hkey)
  · exact absurd hkey hne
  · exact hkey

/-- In a list without repetition no two members each come after the other. -/
theorem eq_of_mem_after {α : Type} {xs before before' after after' : List α} {a b : α}
    (hnodup : xs.Nodup) (hfirst : xs = before ++ a :: after) (hsecond : xs = before' ++ b :: after')
    (ha : a = b ∨ a ∈ after') (hb : b = a ∨ b ∈ after) : a = b := by
  have once : ∀ {front back : List α} {c : α}, xs = front ++ c :: back → c ∉ back := by
    rintro front back c rfl
    exact (List.nodup_cons.1 (List.nodup_append.1 hnodup).2.1).1
  rcases List.append_eq_append_iff.1 (hfirst.symm.trans hsecond) with
    ⟨between, -, h⟩ | ⟨between, -, h⟩
  · cases between with
    | nil => exact (List.cons.inj h).1
    | cons c between =>
      obtain ⟨rfl, rfl⟩ := List.cons.inj h
      refine ha.resolve_right fun hmem => once hfirst ?_
      exact List.mem_append_right _ (List.mem_cons_of_mem _ hmem)
  · cases between with
    | nil => exact (List.cons.inj h).1.symm
    | cons c between =>
      obtain ⟨rfl, rfl⟩ := List.cons.inj h
      refine (hb.resolve_right fun hmem => once hsecond ?_).symm
      exact List.mem_append_right _ (List.mem_cons_of_mem _ hmem)

/-- A rotation that begins with the same member changes nothing, where all members differ. -/
theorem eq_of_isRotated_cons {α : Type} {a : α} {xs ys : List α} (hnodup : (a :: xs).Nodup)
    (h : (a :: xs) ~r (a :: ys)) : xs = ys := by
  obtain ⟨n, hn⟩ := h
  rw [← List.rotate_mod] at hn
  have hlt : n % (a :: xs).length < (a :: xs).length := Nat.mod_lt _ (Nat.succ_pos _)
  generalize n % (a :: xs).length = m at hn hlt
  -- the first member stands at no other place
  have hhead : (a :: xs)[m]? = some a := by
    rw [← List.head?_rotate hlt, hn, List.head?_cons]
  have hzero : m = 0 := by
    have hsame : (a :: xs)[m] = (a :: xs)[0] := by
      rw [List.getElem?_eq_getElem hlt, Option.some.injEq] at hhead
      exact hhead
    exact hnodup.getElem_inj_iff.1 hsame
  rw [hzero, List.rotate_zero] at hn
  exact (List.cons.inj hn).2

/-- No elementary cycle is found in two rotations. -/
theorem eq_of_isRotated (h : Coherent g) {first second : List String}
    (hfirst : first ∈ g.cyclesUpTo none) (hsecond : second ∈ g.cyclesUpTo none)
    (hrotated : first ~r second) : first = second := by
  obtain ⟨before, start, after, path, hkeys, rfl, hpath, helementary⟩ :=
    (mem_cyclesUpTo_iff h).1 hfirst
  obtain ⟨before', start', after', path', hkeys', rfl, hpath', -⟩ :=
    (mem_cyclesUpTo_iff h).1 hsecond
  -- each of the two starts is the other, or comes after it
  have hstart : start = start' ∨ start ∈ after' := by
    have hmem := hrotated.mem_iff.1 List.mem_cons_self
    exact (List.mem_cons.1 hmem).imp id (hpath' start)
  have hstart' : start' = start ∨ start' ∈ after := by
    have hmem := hrotated.mem_iff.2 List.mem_cons_self
    exact (List.mem_cons.1 hmem).imp id (hpath start')
  have hsame := eq_of_mem_after h.names_nodup hkeys hkeys' hstart hstart'
  subst hsame
  rw [eq_of_isRotated_cons (isElementary_cons_iff.1 helementary).1 hrotated]

theorem nodup_cyclesUpTo (h : Coherent g) : (g.cyclesUpTo none).Nodup := by
  rw [cyclesUpTo_none, List.nodup_flatMap]
  refine ⟨fun _ _ => nodup_cyclesAlong (nodup_successors h) _ _ _, ?_⟩
  -- cycles of different starts begin differently
  have hstarts := h.names_nodup
  rw [← map_fst_starts g.nodes.keys, List.Nodup, List.pairwise_map] at hstarts
  refine hstarts.imp fun {a b} hne cycle ha hb => hne ?_
  obtain ⟨rest, rfl⟩ := prefix_of_mem_cyclesAlong ha
  obtain ⟨rest', hrest'⟩ := prefix_of_mem_cyclesAlong hb
  exact (List.cons.inj hrest').1.symm

theorem elementary_of_mem_cyclesUpTo (h : Coherent g) {cycle : List String}
    (hcycle : cycle ∈ g.cyclesUpTo none) : g.IsElementary cycle := by
  obtain ⟨_, _, _, _, -, rfl, -, helementary⟩ := (mem_cyclesUpTo_iff h).1 hcycle
  exact helementary

/-- The elementary cycles of a graph are those that are found. -/
theorem setOf_isElementary_eq (h : Coherent g) :
    {c | g.IsElementary c} =
      (((g.cyclesUpTo none).map fun cycle : List String => (cycle : Cycle String)).toFinset :
        Set (Cycle String)) := by
  ext c
  rw [Set.mem_ofPred_eq, List.coe_toFinset, Set.mem_ofPred_eq, List.mem_map]
  constructor
  · exact exists_mem_cyclesUpTo h
  · rintro ⟨cycle, hcycle, rfl⟩
    exact elementary_of_mem_cyclesUpTo h hcycle

theorem ncard_isElementary (h : Coherent g) :
    {c | g.IsElementary c}.ncard = (g.cyclesUpTo none).length := by
  have hnodup :
      ((g.cyclesUpTo none).map fun cycle : List String => (cycle : Cycle String)).Nodup := by
    rw [List.nodup_map_iff_inj_on (nodup_cyclesUpTo h)]
    exact fun first hfirst second hsecond heq =>
      eq_of_isRotated h hfirst hsecond (Cycle.coe_eq_coe.1 heq)
  rw [setOf_isElementary_eq h, Set.ncard_coe_finset, List.toFinset_card_of_nodup hnodup,
    List.length_map]

/-! ## Limits -/

/-- A limit below one is none. -/
theorem cycles_of_not_pos {limit : Option Int} (hlimit : ∀ n ∈ limit, n ≤ 0) :
    g.cycles limit = g.cyclesUpTo none := by
  have hnone : limit.filter (0 < ·) = none := by
    rw [Option.filter_eq_none_iff]
    intro n hn
    rw [decide_eq_true_eq]
    exact Int.not_lt.2 (hlimit n hn)
  rw [cycles, hnone]
  rfl

theorem cycles_some_of_pos {n : Nat} (hn : 0 < n) :
    g.cycles (some (n : Int)) = (g.cyclesUpTo none).take n := by
  have hsome : (some (n : Int)).filter (0 < ·) = some (n : Int) := by
    rw [Option.filter_some, if_pos (by simpa using hn)]
  rw [cycles, hsome, Option.map_some, Int.toNat_natCast, cyclesUpTo_some_eq_take]

theorem cycles_sublist (g : Graph) (limit : Option Int) :
    (g.cycles limit).Sublist (g.cyclesUpTo none) := by
  cases hwanted : (limit.filter (0 < ·)).map Int.toNat with
  | none =>
    rw [cycles, hwanted]
  | some n =>
    rw [cycles, hwanted, cyclesUpTo_some_eq_take]
    exact List.take_sublist _ _

/-- The elementary cycles of a graph, each in one of its rotations, as far as a limit allows. A
    limit below one is none. -/
structure IsEnumeration (g : Graph) (limit : Option Int) (found : List (List String)) : Prop where
  elementary : ∀ cycle ∈ found, g.IsElementary cycle
  distinct : found.Pairwise fun first second => ¬ first ~r second
  finite : {c | g.IsElementary c}.Finite
  complete : (∀ n ∈ limit, n ≤ 0) → ∀ c, g.IsElementary c →
    ∃ cycle ∈ found, (cycle : Cycle String) = c
  limited : ∀ n : Nat, 0 < n → limit = some (n : Int) →
    found.length = min n {c | g.IsElementary c}.ncard

/-- The search finds every elementary cycle once, or as many as its limit allows. -/
theorem isEnumeration_cycles (h : Coherent g) (limit : Option Int) :
    g.IsEnumeration limit (g.cycles limit) where
  elementary cycle hcycle :=
    elementary_of_mem_cyclesUpTo h ((cycles_sublist g limit).subset hcycle)
  distinct := by
    have hall : (g.cyclesUpTo none).Pairwise fun first second => ¬ first ~r second :=
      (nodup_cyclesUpTo h).pairwise_of_forall_ne fun first hfirst second hsecond hne hrotated =>
        hne (eq_of_isRotated h hfirst hsecond hrotated)
    exact hall.sublist (cycles_sublist g limit)
  finite := by
    rw [setOf_isElementary_eq h]
    exact Finset.finite_toSet _
  complete hlimit c hc := by
    rw [cycles_of_not_pos hlimit]
    exact exists_mem_cyclesUpTo h hc
  limited n hn hlimit := by
    rw [hlimit, cycles_some_of_pos hn, List.length_take, ncard_isElementary h]

/-- Whatever the limit, some cycle is found exactly if there is one. -/
theorem IsEnumeration.ne_nil_iff {limit : Option Int} {found : List (List String)}
    (h : g.IsEnumeration limit found) : found ≠ [] ↔ ∃ c, g.IsElementary c := by
  constructor
  · intro hne
    obtain ⟨cycle, hcycle⟩ := List.exists_mem_of_ne_nil found hne
    exact ⟨cycle, h.elementary cycle hcycle⟩
  · rintro ⟨c, hc⟩
    by_cases hlimit : ∀ n ∈ limit, n ≤ 0
    · obtain ⟨cycle, hcycle, -⟩ := h.complete hlimit c hc
      exact List.ne_nil_of_mem hcycle
    · -- a positive limit leaves room for one cycle
      push Not at hlimit
      obtain ⟨n, hn, hpos⟩ := hlimit
      have hlength := h.limited n.toNat (by omega) (by rw [Int.toNat_of_nonneg hpos.le]; exact hn)
      have hcard : 0 < {c | g.IsElementary c}.ncard := (Set.ncard_pos h.finite).2 ⟨c, hc⟩
      exact List.ne_nil_of_length_pos (by omega)

/-! ## Ways back -/

/-- A way from a member back to it holds a way of different members back to its own start. -/
theorem exists_nodup_of_isChain {α : Type} {R : α → α → Prop} {a : α} {path : List α}
    (h : List.IsChain R (a :: (path ++ [a]))) :
    ∃ b round, (b :: round).Nodup ∧ List.IsChain R (b :: (round ++ [b])) := by
  induction hlength : path.length using Nat.strong_induction_on generalizing a path with
  | _ n ih =>
    by_cases hnodup : (a :: path).Nodup
    · exact ⟨a, path, hnodup, h⟩
    · -- between two places of one member there is a shorter way back
      rw [List.nodup_iff_sublist] at hnodup
      push Not at hnodup
      obtain ⟨b, hb⟩ := hnodup
      obtain ⟨front, back, hsplit, hfront, hback⟩ := List.cons_sublist_iff.1 hb
      obtain ⟨before, between, rfl⟩ := List.append_of_mem hfront
      obtain ⟨middle, after, rfl⟩ := List.append_of_mem (List.singleton_sublist.1 hback)
      have hinfix : b :: ((between ++ middle) ++ [b]) <:+: a :: (path ++ [a]) := by
        refine ⟨before, after ++ [a], ?_⟩
        have hwhole : a :: (path ++ [a]) = (a :: path) ++ [a] := rfl
        rw [hwhole, hsplit]
        simp
      have hshorter : (between ++ middle).length < n := by
        have := congrArg List.length hsplit
        simp only [List.length_cons, List.length_append] at this ⊢
        omega
      have hround : List.IsChain R (b :: ((between ++ middle) ++ [b])) :=
        List.IsChain.infix h hinfix
      exact ih _ hshorter hround rfl

/-- A graph has an elementary cycle exactly if some project depends on itself in the end. -/
theorem exists_isElementary_iff :
    (∃ c, g.IsElementary c) ↔ ∃ name, Relation.TransGen g.DependsOn name name := by
  constructor
  · rintro ⟨c, hc⟩
    obtain ⟨name, hname⟩ := exists_mem_of_isElementary hc
    obtain ⟨rest, rfl⟩ := exists_eq_coe_cons hname
    have hchain := (isElementary_cons_iff.1 hc).2
    refine ⟨name, ?_⟩
    cases rest with
    | nil => exact .single (List.isChain_pair.1 hchain)
    | cons other rest =>
      rw [List.cons_append, List.isChain_cons_cons] at hchain
      refine Relation.TransGen.head'_iff.2 ⟨other, hchain.1, ?_⟩
      exact List.relationReflTransGen_of_exists_isChain_cons _ hchain.2 (by simp)
  · rintro ⟨name, hname⟩
    obtain ⟨other, hstep, hback⟩ := Relation.TransGen.head'_iff.1 hname
    obtain ⟨path, hchain, hlast⟩ := List.exists_isChain_cons_of_relationReflTransGen hback
    -- the way back ends where it began
    have hpath : other :: path = (other :: path).dropLast ++ [name] := by
      rw [← hlast, List.dropLast_append_getLast]
    have hround : List.IsChain g.DependsOn (name :: ((other :: path).dropLast ++ [name])) := by
      rw [← hpath]
      exact List.isChain_cons_cons.2 ⟨hstep, hchain⟩
    obtain ⟨start, round, hnodup, hround⟩ := exists_nodup_of_isChain hround
    exact ⟨_, isElementary_cons_iff.2 ⟨hnodup, hround⟩⟩

/-! ## Steps -/

/-- The steps of a cycle lead from each project to the one that is next. -/
theorem steps_eq_zip (cycle : List String) : steps cycle = cycle.zip (cycle.rotate 1) := by
  cases cycle with
  | nil => rfl
  | cons name names => rw [steps, List.rotate_eq_drop_append_take (Nat.succ_pos _)]

/-- Each step of an elementary cycle is a dependency. -/
theorem dependsOn_of_mem_steps {cycle : List String} (h : g.IsElementary cycle)
    {ends : String × String} (hends : ends ∈ steps cycle) : g.DependsOn ends.1 ends.2 := by
  cases cycle with
  | nil => exact absurd rfl h.ne_nil
  | cons name names =>
    have hchain : List.IsChain g.DependsOn ((name :: names) ++ [name]) :=
      (isElementary_cons_iff.1 h).2
    rw [List.isChain_cons_append_singleton_iff_forall₂] at hchain
    exact (List.forall₂_iff_zip.1 hchain).2 hends

/-- The file that shows a dependency is the one that is recorded of it. -/
theorem evidence?_eq_some_iff (h : Coherent g) {source target file : String} :
    g.evidence? (source, target) = some file ↔
      ∃ d ∈ g.edges, d.ends = (source, target) ∧ d.evidence = file := by
  rw [evidence?, Option.map_eq_some_iff]
  constructor
  · rintro ⟨d, hd, rfl⟩
    exact ⟨d, List.mem_of_find?_eq_some hd, by simpa using List.find?_some hd, rfl⟩
  · rintro ⟨d, hd, hends, rfl⟩
    refine ⟨d, ?_, rfl⟩
    cases hfind : g.edges.find? fun e => e.ends == (source, target) with
    | none => exact absurd (beq_iff_eq.2 hends) (List.find?_eq_none.1 hfind d hd)
    | some e =>
      -- no two dependencies have the same ends
      have heends : e.ends = (source, target) := by simpa using List.find?_some hfind
      rw [List.inj_on_of_nodup_map h.ends_nodup (List.mem_of_find?_eq_some hfind) hd
        (heends.trans hends.symm)]

end MakeAtlas.Graph
