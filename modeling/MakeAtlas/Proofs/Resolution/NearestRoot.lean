import MakeAtlas.Proofs.Path.Segments
import MakeAtlas.Proofs.Resolution.Resolved
import MakeAtlas.Proofs.TableKeys

/-!
# The nearest root above a path

The index looks a path up among the texts of the roots, the longest text first. What it finds are
the names of the projects at the root above the path that has the most segments: texts of roots
above one path grow with their segments, and a root whose text only begins a segment is not above.

## Key results

- `isLongest_of_find?`: the first root of the index that holds a path is the longest one that does
- `isNearest_of_find?`: it is the nearest one above the path
- `owners_eq_nil_iff`: which paths belong to no project
- `owners_eq_namesAt`: the owners of a path are the projects at the nearest root
- `owners_filter_of_not_isAbove`: a root that is not above a path has no say in who owns it
-/

namespace MakeAtlas

namespace RootIndex

open MakeAtlas.Path (IsAbove IsSettled segments isSettled_resolve isWithin_iff_isAbove)

/-- Some project of a workspace lies at an absolute root. -/
def IsRoot (location : String) (projects : List Project) (root : String) : Prop :=
  ∃ p ∈ projects, rootAt location p.root = root

/-- The names of the projects at an absolute root, in the projects' order. -/
def namesAt (location : String) (projects : List Project) (root : String) : List String :=
  (projects.filter fun p => rootAt location p.root == root).map (·.name)

/-- The nearest root above a path: of the projects' roots above it, one with the most segments. -/
structure IsNearest (location : String) (projects : List Project) (root path : String) : Prop where
  isRoot : IsRoot location projects root
  isAbove : IsAbove root path
  most : ∀ other, IsRoot location projects other → IsAbove other path →
    (segments other).length ≤ (segments root).length

instance (location : String) (projects : List Project) (root : String) :
    Decidable (IsRoot location projects root) :=
  inferInstanceAs (Decidable (∃ p ∈ projects, rootAt location p.root = root))

/-- Of the roots above a path only those of the projects have to be looked at. -/
instance (location : String) (projects : List Project) (root path : String) :
    Decidable (IsNearest location projects root path) :=
  decidable_of_iff (IsRoot location projects root ∧ IsAbove root path ∧
      ∀ p ∈ projects, IsAbove (rootAt location p.root) path →
        (segments (rootAt location p.root)).length ≤ (segments root).length)
    ⟨fun h => ⟨h.1, h.2.1, fun _ ⟨p, hp, hother⟩ habove => hother ▸ h.2.2 p hp (hother ▸ habove)⟩,
      fun h => ⟨h.isRoot, h.isAbove, fun p hp => h.most _ ⟨p, hp, rfl⟩⟩⟩

variable {location : String} {projects : List Project} {path root : String}

/-! ## The entries of the index -/

/-- Registering projects adds, under each root, the names of the projects at it. -/
private theorem get?_foldl_register (roots : Table (List String)) (root : String) :
    ((projects.foldl (register location) roots).get? root).getD [] =
      (roots.get? root).getD [] ++ namesAt location projects root := by
  induction projects generalizing roots with
  | nil => simp [namesAt]
  | cons p ps ih =>
    rw [List.foldl_cons, ih, register, Table.get?_put]
    by_cases hp : rootAt location p.root = root
    · rw [if_pos hp, namesAt, namesAt, List.filter_cons_of_pos (by simp [hp]), List.map_cons, hp,
        Option.getD_some, List.append_assoc, List.singleton_append]
    · rw [if_neg hp, namesAt, namesAt, List.filter_cons_of_neg (by simp [hp])]

/-- Registering projects adds their roots. -/
private theorem mem_keys_foldl_register (roots : Table (List String)) (root : String) :
    root ∈ (projects.foldl (register location) roots).keys ↔
      root ∈ roots.keys ∨ IsRoot location projects root := by
  induction projects generalizing roots with
  | nil => simp [IsRoot]
  | cons p ps ih =>
    have hcons : IsRoot location (p :: ps) root ↔
        rootAt location p.root = root ∨ IsRoot location ps root := by
      simp [IsRoot]
    rw [List.foldl_cons, ih, register, Table.mem_keys_put, hcons, or_assoc, or_left_comm,
      eq_comm]

/-- No root is registered twice. -/
private theorem nodup_keys_foldl_register {roots : Table (List String)} (h : roots.keys.Nodup) :
    (projects.foldl (register location) roots).keys.Nodup := by
  induction projects generalizing roots with
  | nil => exact h
  | cons p ps ih => exact ih (Table.nodup_keys_put h _ _)

/-- The index holds the projects' roots, each with the names of the projects at it. -/
theorem mem_roots_iff {names : List String} :
    (root, names) ∈ (ofProjects location projects).roots ↔
      IsRoot location projects root ∧ names = namesAt location projects root := by
  have hnodup : (Table.keys (projects.foldl (register location) [])).Nodup :=
    nodup_keys_foldl_register (by simp [Table.keys])
  have hkeys : root ∈ Table.keys (projects.foldl (register location) []) ↔
      IsRoot location projects root := by
    simpa [Table.keys] using mem_keys_foldl_register [] root
  have hnames : (Table.get? (projects.foldl (register location) []) root).getD [] =
      namesAt location projects root := by
    simpa [Table.get?] using get?_foldl_register [] root
  rw [ofProjects, List.mem_mergeSort, ← hkeys]
  constructor
  · intro h
    rw [(Table.get?_eq_some_iff_mem hnodup).2 h] at hnames
    exact ⟨List.mem_map_of_mem h, hnames⟩
  · intro h
    obtain ⟨hroot, rfl⟩ := h
    obtain ⟨entry, hmem, rfl⟩ := List.mem_map.1 hroot
    rw [(Table.get?_eq_some_iff_mem hnodup).2 hmem] at hnames
    rw [← hnames]
    exact hmem

/-- Some name is registered at every root. -/
theorem namesAt_ne_nil (h : IsRoot location projects root) :
    namesAt location projects root ≠ [] := by
  obtain ⟨p, hp, hroot⟩ := h
  intro hnil
  have hmem : p.name ∈ namesAt location projects root :=
    List.mem_map_of_mem (List.mem_filter.2 ⟨hp, by simp [hroot]⟩)
  rw [hnil] at hmem
  exact nomatch hmem

/-! ## The first hit is the longest root -/

/-- The longest of the projects' roots that hold a path, as texts. -/
structure IsLongest (location : String) (projects : List Project) (root path : String) : Prop where
  isRoot : IsRoot location projects root
  holds : Path.isWithin path root = true
  longest : ∀ other, IsRoot location projects other → Path.isWithin path other = true →
    other.length ≤ root.length

/-- The first root of the index that holds a path is the longest one that does. -/
theorem isLongest_of_find? {entry : String × List String}
    (h : ((ofProjects location projects).roots.find? fun e => Path.isWithin path e.1) =
      some entry) :
    IsLongest location projects entry.1 path ∧ entry.2 = namesAt location projects entry.1 := by
  obtain ⟨first, names⟩ := entry
  show IsLongest location projects first path ∧ names = namesAt location projects first
  obtain ⟨hwithin, before, behind, hroots, hbefore⟩ := List.find?_eq_some_iff_append.1 h
  have hsorted := length_mono location projects
  have hentry : (first, names) ∈ (ofProjects location projects).roots := by
    rw [hroots]
    exact List.mem_append_right _ List.mem_cons_self
  obtain ⟨hroot, hnames⟩ := mem_roots_iff.1 hentry
  refine ⟨⟨hroot, hwithin, ?_⟩, hnames⟩
  intro other hother howithin
  have hmem := mem_roots_iff.2 ⟨hother, rfl⟩
  rw [hroots] at hmem hsorted
  rcases List.mem_append.1 hmem with hmem | hmem
  · -- a root before the first hit does not hold the path
    have hnot := hbefore _ hmem
    rw [howithin] at hnot
    exact nomatch hnot
  · rcases List.mem_cons.1 hmem with heq | hmem
    · have hsame : other = first := (Prod.mk.inj heq).1
      exact Nat.le_of_eq (by rw [hsame])
    · exact (List.pairwise_cons.1 (List.pairwise_append.1 hsorted).2.1).1
        (other, namesAt location projects other) hmem

/-- Only one root is the longest: two roots of one length that hold a path begin it alike. -/
theorem IsLongest.unique {other : String} (h : IsLongest location projects root path)
    (ho : IsLongest location projects other path) : other = root := by
  have hlength : other.toList.length = root.toList.length :=
    Nat.le_antisymm (h.longest other ho.isRoot ho.holds) (ho.longest root h.isRoot h.holds)
  have hbegins : other.toList <+: root.toList :=
    List.prefix_of_prefix_length_le (Path.toList_prefix_of_isWithin ho.holds)
      (Path.toList_prefix_of_isWithin h.holds) (Nat.le_of_eq hlength)
  exact String.toList_inj.1 (hbegins.eq_of_length hlength)

/-- Who owns a path: the projects at the longest root that holds it, and nobody if no root does. -/
theorem owners_eq_namesAt_or_nil (location : String) (projects : List Project) (path : String) :
    (∃ root, IsLongest location projects root path ∧
      (ofProjects location projects).owners path = namesAt location projects root) ∨
    (∀ root, IsRoot location projects root → ¬ Path.isWithin path root = true) ∧
      (ofProjects location projects).owners path = [] := by
  rw [owners_eq_find?]
  cases hfind : (ofProjects location projects).roots.find? fun e => Path.isWithin path e.1 with
  | some entry =>
    obtain ⟨hlongest, hnames⟩ := isLongest_of_find? hfind
    exact Or.inl ⟨entry.1, hlongest, hnames⟩
  | none =>
    refine Or.inr ⟨fun root hroot => ?_, rfl⟩
    exact List.find?_eq_none.1 hfind _ (mem_roots_iff.2 ⟨hroot, rfl⟩)

/-! ## The longest root is the nearest one -/

/-- In an absolute workspace the roots are absolute paths in normal form. -/
theorem isSettled_of_isRoot (absolute : Path.isAnchored location.toList = true)
    (h : IsRoot location projects root) : IsSettled root := by
  obtain ⟨p, _, rfl⟩ := h
  exact isSettled_resolve absolute _

/-- In an absolute workspace the longest root that holds a path is the nearest one above it. -/
theorem IsLongest.isNearest (absolute : Path.isAnchored location.toList = true)
    (settled : IsSettled path) (h : IsLongest location projects root path) :
    IsNearest location projects root path := by
  have hsettled := isSettled_of_isRoot absolute h.isRoot
  have habove : IsAbove root path := (isWithin_iff_isAbove settled hsettled).1 h.holds
  refine ⟨h.isRoot, habove, ?_⟩
  intro other hother hoabove
  have hosettled := isSettled_of_isRoot absolute hother
  have hlength := h.longest other hother ((isWithin_iff_isAbove settled hosettled).2 hoabove)
  apply Nat.le_of_not_lt
  intro hmore
  -- with fewer segments the longest root would be above the other one, and its text shorter
  have hbetween : IsAbove root other :=
    List.prefix_of_prefix_length_le habove hoabove (Nat.le_of_lt hmore)
  have hle := Path.length_le_of_isAbove hosettled hsettled hbetween
  have heq := Path.eq_of_isAbove_of_length_eq hosettled hsettled hbetween (by omega)
  rw [heq] at hmore
  exact Nat.lt_irrefl _ hmore

/-- The first root of the index that holds a path is the nearest one above it. -/
theorem isNearest_of_find? (absolute : Path.isAnchored location.toList = true)
    (settled : IsSettled path) {entry : String × List String}
    (h : ((ofProjects location projects).roots.find? fun e => Path.isWithin path e.1) =
      some entry) :
    IsNearest location projects entry.1 path ∧ entry.2 = namesAt location projects entry.1 := by
  obtain ⟨hlongest, hnames⟩ := isLongest_of_find? h
  exact ⟨hlongest.isNearest absolute settled, hnames⟩

/-- Only one root is the nearest. -/
theorem IsNearest.unique (absolute : Path.isAnchored location.toList = true) {other : String}
    (h : IsNearest location projects root path) (ho : IsNearest location projects other path) :
    other = root := by
  have hlength := Nat.le_antisymm (h.most other ho.isRoot ho.isAbove)
    (ho.most root h.isRoot h.isAbove)
  have hbegins : segments other <+: segments root :=
    List.prefix_of_prefix_length_le ho.isAbove h.isAbove (Nat.le_of_eq hlength)
  exact (isSettled_of_isRoot absolute ho.isRoot).eq_of_segments_eq
    (isSettled_of_isRoot absolute h.isRoot) (hbegins.eq_of_length hlength).symm

/-- Of a path with some root above it, one root is the nearest. -/
theorem exists_isNearest (absolute : Path.isAnchored location.toList = true)
    (settled : IsSettled path) (hroot : IsRoot location projects root)
    (habove : IsAbove root path) : ∃ nearest, IsNearest location projects nearest path := by
  cases hfind : (ofProjects location projects).roots.find? fun e => Path.isWithin path e.1 with
  | some entry => exact ⟨entry.1, (isNearest_of_find? absolute settled hfind).1⟩
  | none =>
    have hnot := List.find?_eq_none.1 hfind _ (mem_roots_iff.2 ⟨hroot, rfl⟩)
    have hsettled := isSettled_of_isRoot absolute hroot
    exact absurd ((isWithin_iff_isAbove settled hsettled).2 habove) hnot

/-- The owners of a path are the names of the projects at the nearest root above it. -/
theorem owners_eq_namesAt (absolute : Path.isAnchored location.toList = true)
    (settled : IsSettled path) (h : IsNearest location projects root path) :
    (ofProjects location projects).owners path = namesAt location projects root := by
  rw [owners_eq_find?]
  cases hfind : (ofProjects location projects).roots.find? fun e => Path.isWithin path e.1 with
  | some entry =>
    obtain ⟨hnearest, hnames⟩ := isNearest_of_find? absolute settled hfind
    rw [Option.map_some, Option.getD_some, hnames, h.unique absolute hnearest]
  | none =>
    have hnot := List.find?_eq_none.1 hfind _ (mem_roots_iff.2 ⟨h.isRoot, rfl⟩)
    have hsettled := isSettled_of_isRoot absolute h.isRoot
    exact absurd ((isWithin_iff_isAbove settled hsettled).2 h.isAbove) hnot

/-- A path has no owner exactly if no root is above it. -/
theorem owners_eq_nil_iff (absolute : Path.isAnchored location.toList = true)
    (settled : IsSettled path) :
    (ofProjects location projects).owners path = [] ↔
      ∀ root, IsRoot location projects root → ¬ IsAbove root path := by
  constructor
  · intro hnil root hroot habove
    obtain ⟨nearest, hnearest⟩ := exists_isNearest absolute settled hroot habove
    rw [owners_eq_namesAt absolute settled hnearest] at hnil
    exact namesAt_ne_nil hnearest.isRoot hnil
  · intro hnone
    rw [owners_eq_find?]
    cases hfind : (ofProjects location projects).roots.find? fun e => Path.isWithin path e.1 with
    | some entry =>
      have hnearest := (isNearest_of_find? absolute settled hfind).1
      exact absurd hnearest.isAbove (hnone _ hnearest.isRoot)
    | none => rfl

/-- A root that is not above a path has no say in who owns it: without the projects at that root
    the owners are the same. -/
theorem owners_filter_of_not_isAbove (absolute : Path.isAnchored location.toList = true)
    (settled : IsSettled path) (h : ¬ IsAbove root path) :
    (ofProjects location (projects.filter fun p => rootAt location p.root != root)).owners path =
      (ofProjects location projects).owners path := by
  have hroots : ∀ other, IsRoot location
      (projects.filter fun p => rootAt location p.root != root) other ↔
        IsRoot location projects other ∧ other ≠ root := by
    intro other
    simp only [IsRoot, List.mem_filter, bne_iff_ne]
    constructor
    · intro h
      obtain ⟨p, ⟨hp, hne⟩, rfl⟩ := h
      exact ⟨⟨p, hp, rfl⟩, hne⟩
    · intro h
      obtain ⟨⟨p, hp, rfl⟩, hne⟩ := h
      exact ⟨p, ⟨hp, hne⟩, rfl⟩
  by_cases hsome : ∃ other, IsRoot location projects other ∧ IsAbove other path
  · obtain ⟨other, hother, habove⟩ := hsome
    obtain ⟨nearest, hnearest⟩ := exists_isNearest absolute settled hother habove
    -- the nearest root is another one, and keeps its projects
    have hne : nearest ≠ root := fun heq => h (heq ▸ hnearest.isAbove)
    have hkept : IsNearest location (projects.filter fun p => rootAt location p.root != root)
        nearest path :=
      ⟨(hroots nearest).2 ⟨hnearest.isRoot, hne⟩, hnearest.isAbove,
        fun o ho => hnearest.most o ((hroots o).1 ho).1⟩
    have hnames :
        namesAt location (projects.filter fun p => rootAt location p.root != root) nearest =
          namesAt location projects nearest := by
      rw [namesAt, namesAt, List.filter_filter]
      apply congrArg (List.map Project.name)
      apply List.filter_congr
      intro p _
      by_cases hp : rootAt location p.root = nearest
      · simp [hp, hne]
      · simp [hp]
    rw [owners_eq_namesAt absolute settled hkept, owners_eq_namesAt absolute settled hnearest,
      hnames]
  · have hnone : ∀ other, IsRoot location projects other → ¬ IsAbove other path :=
      fun other hother habove => hsome ⟨other, hother, habove⟩
    rw [(owners_eq_nil_iff absolute settled).2 hnone, owners_eq_nil_iff absolute settled]
    intro other hother
    exact hnone other ((hroots other).1 hother).1

end RootIndex
end MakeAtlas
