import MakeAtlas.Graph.Basic

/-!
# Cycles of dependencies

A cycle is a list of different projects each of which depends on the next, and the last on the
first. The search takes every project as the first of the cycles that run through it and through
projects after it only, so that no cycle is found from two places. It goes on along dependencies, to
projects from which the first can still be reached, and stops when enough cycles are found. A limit
that is too large to be counted to is refused.

* `gather_eq`   stopping early only cuts the list of what is found
* `findCycles_eq_ok_iff`, `findCycles_eq_error_iff`   which limits are refused
-/

namespace MakeAtlas.Graph

/-! ## Collecting up to a number -/

/-- The first elements of a list, or all if no number is given. -/
def upTo {α : Type} : Option Nat → List α → List α
  | none, found => found
  | some n, found => found.take n

/-- What the members of a list yield, one after the other, up to a number. Each is told how many are
still wanted. -/
def gather {α β : Type} (search : Option Nat → α → List β) : Option Nat → List α → List β
  | _, [] => []
  | none, a :: rest => search none a ++ gather search none rest
  | some n, a :: rest =>
    let found := search (some n) a
    if found.length < n then found ++ gather search (some (n - found.length)) rest
    else found

theorem gather_eq {α β : Type} {search : Option Nat → α → List β}
    (cut : ∀ n a, search (some n) a = (search none a).take n) (wanted : Option Nat) (xs : List α) :
    gather search wanted xs = upTo wanted (xs.flatMap (search none)) := by
  cases wanted with
  -- Without a number both sides are the same concatenation
  | none =>
    induction xs with
    | nil => rfl
    | cons a rest ih =>
      simp only [upTo] at ih
      simp [gather, upTo, ih]
  -- With a number, what is still wanted shrinks by what has been found
  | some n =>
    induction xs generalizing n with
    | nil => simp [gather, upTo]
    | cons a rest ih =>
      simp only [gather, upTo, List.flatMap_cons, List.take_append, cut, List.length_take]
      by_cases h : min n (search none a).length < n
      · have hle : (search none a).length ≤ n := by omega
        simp only [h, if_true, ih, upTo]
        rw [Nat.min_eq_right hle]
      · have hle : n ≤ (search none a).length := by omega
        simp only [h, if_false]
        simp [Nat.sub_eq_zero_of_le hle]

/-! ## Searching -/

/-- The members of a list that lead to a project in one step. -/
def leadingTo (next : String → List String) (name : String) (rest : List String) : List String :=
  rest.filter fun other => (next other).contains name

/-- The members of a list that do not lead to a project in one step. -/
def notLeadingTo (next : String → List String) (name : String) (rest : List String) :
    List String :=
  rest.filter fun other => !(next other).contains name

theorem length_leadingTo_add (next : String → List String) (name : String)
    (rest : List String) :
    (leadingTo next name rest).length + (notLeadingTo next name rest).length = rest.length := by
  induction rest with
  | nil => rfl
  | cons other rest ih =>
    simp only [leadingTo, notLeadingTo] at ih
    by_cases h : (next other).contains name = true
    · simp only [leadingTo, notLeadingTo, List.filter_cons, h, Bool.not_true, Bool.false_eq_true,
        if_true, if_false, List.length_cons]
      omega
    · simp only [leadingTo, notLeadingTo, List.filter_cons, h, Bool.not_false, Bool.false_eq_true,
        if_true, if_false, List.length_cons]
      omega

theorem length_notLeadingTo_lt (next : String → List String) (name : String)
    (rest more : List String) :
    (notLeadingTo next name rest).length +
      (more.length + (leadingTo next name rest).length) < rest.length + (more.length + 1) := by
  have := length_leadingTo_add next name rest
  omega

/-- The members of a list from which a frontier can be reached inside the list. -/
def reaching (next : String → List String) (rest frontier : List String) : List String :=
  match frontier with
  | [] => []
  | name :: more =>
    have := length_notLeadingTo_lt next name rest more
    leadingTo next name rest ++
      reaching next (notLeadingTo next name rest) (more ++ leadingTo next name rest)
termination_by rest.length + frontier.length

/-- The cycles that begin with a trail, whose last project comes first, and go on through at most
`room` of the projects that are free. -/
def cyclesAlong (next : String → List String) (start : String) :
    (room : Nat) → (free : List String) → (trail : List String) → Option Nat → List (List String)
  | 0, _, trail, wanted =>
    upTo wanted (if (next (trail.headD start)).contains start then [trail.reverse] else [])
  | room + 1, free, trail, wanted =>
    -- only projects that lead back to the start are worth a step
    let useful := reaching next free [start]
    gather
      (fun wanted name =>
        if name = start then upTo wanted [trail.reverse]
        else if useful.contains name then
          cyclesAlong next start room (useful.erase name) (name :: trail) wanted
        else [])
      wanted (next (trail.headD start))

/-- Every project with those after it. -/
def starts : List String → List (String × List String)
  | [] => []
  | name :: rest => (name, rest) :: starts rest

/-- The cycles of a graph, at most as many as wanted. -/
def cyclesUpTo (g : Graph) (wanted : Option Nat) : List (List String) :=
  gather (fun wanted (start, free) =>
      cyclesAlong g.successors start free.length free [start] wanted)
    wanted (starts g.nodes.keys)

/-- The cycles of a graph. A limit below one is none. -/
def cycles (g : Graph) (limit : Option Int) : List (List String) :=
  g.cyclesUpTo ((limit.filter (0 < ·)).map Int.toNat)

/-! ## Limits -/

/-- The largest number that is counted to, that of a signed word of 64 bits. -/
def maxLimit : Int := 9223372036854775807

/-- Why cycles are not looked for. -/
inductive LimitFault where
  /-- The limit is too large to be counted to. -/
  | tooLarge
  deriving DecidableEq, Repr

/-- What is said of a limit that is refused. -/
def LimitFault.message : LimitFault → String
  | .tooLarge =>
    "Stop argument for islice() must be None or an integer: 0 <= x <= sys.maxsize."

/-- The cycles of a graph, unless the limit is refused. -/
def findCycles (g : Graph) (limit : Option Int) : Except LimitFault (List (List String)) :=
  if limit.any (maxLimit < ·) then .error .tooLarge else .ok (g.cycles limit)

theorem any_maxLimit_lt_iff {limit : Option Int} :
    limit.any (maxLimit < ·) = true ↔ ∃ n ∈ limit, maxLimit < n := by
  cases limit <;> simp

theorem findCycles_eq_ok_iff {g : Graph} {limit : Option Int} {found : List (List String)} :
    g.findCycles limit = .ok found ↔ (∀ n ∈ limit, n ≤ maxLimit) ∧ g.cycles limit = found := by
  rw [findCycles]
  split
  · next h =>
    obtain ⟨n, hn, hlt⟩ := any_maxLimit_lt_iff.1 h
    exact iff_of_false nofun fun hle => Int.not_lt.2 (hle.1 n hn) hlt
  · next h =>
    have hle : ∀ n ∈ limit, n ≤ maxLimit := fun n hn =>
      Int.not_lt.1 fun hlt => h (any_maxLimit_lt_iff.2 ⟨n, hn, hlt⟩)
    exact ⟨fun hok => ⟨hle, Except.ok.inj hok⟩, fun hfound => congrArg Except.ok hfound.2⟩

theorem findCycles_of_le {g : Graph} {n : Int} (hn : n ≤ maxLimit) :
    g.findCycles (some n) = .ok (g.cycles (some n)) :=
  findCycles_eq_ok_iff.2 ⟨by rintro _ ⟨⟩; exact hn, rfl⟩

theorem findCycles_eq_error_iff {g : Graph} {limit : Option Int} {fault : LimitFault} :
    g.findCycles limit = .error fault ↔ ∃ n ∈ limit, maxLimit < n := by
  rw [findCycles, ← any_maxLimit_lt_iff]
  cases fault
  simp

/-! ## Presenting cycles -/

/-- The smallest of some names, given one of them. -/
def smallest (name : String) (names : List String) : String :=
  names.foldl (fun least other => if other < least then other else least) name

/-- The cycle that begins with its smallest name. -/
def rotated (cycle : List String) : List String :=
  match cycle with
  | [] => []
  | name :: rest =>
    let least := smallest name rest
    cycle.dropWhile (· != least) ++ cycle.takeWhile (· != least)

/-- The order of cycles by their names, the first ones first. -/
def cycleLe (a b : List String) : Bool :=
  !decide (b < a)

/-- Cycles in an order that does not depend on where they were begun. -/
def canonical (cycles : List (List String)) : List (List String) :=
  (cycles.map rotated).mergeSort cycleLe

/-- The steps of a cycle, from each project to the next. -/
def steps (cycle : List String) : List (String × String) :=
  cycle.zip (cycle.drop 1 ++ cycle.take 1)

/-- The file that shows a step, if it is one of the graph. -/
def evidence? (g : Graph) (ends : String × String) : Option String :=
  (g.edges.find? fun d => d.ends == ends).map Dependency.evidence

end MakeAtlas.Graph
