import MakeAtlas.Workspace.Discovery

/-!
# Walking the sources of a project

A walk visits a project's folder depth first and in the order of names: the files of a folder come
before those of its subfolders. Excluded folders are passed over, and so are folders with a Makefile
of their own, which are projects of their own. A walk may be cut short after a number of files; it
yields at least one if there is one.

* `weight_subfolders_lt`   the walk ends: a visited folder leaves less to visit
-/

namespace MakeAtlas.Workspace

/-- Folders with build products and foreign sources. -/
def defaultExcludeDirs : List String :=
  ["dist", "build", "node_modules", ".git", ".nx", "out", "target", "bin", "obj"]

/-- What a walk looks for and what it passes over. -/
structure WalkRules where
  extensions : List String
  excludeDirs : List String := defaultExcludeDirs

/-- A file found by a walk: its steps from the walked folder, and its contents. -/
structure FoundFile where
  steps : List String
  content : Text.Utf8.Bytes
  deriving DecidableEq

/-- The path of a found file from the walked folder. -/
def FoundFile.path (f : FoundFile) : String :=
  String.intercalate "/" f.steps

/-- A folder that a walk still has to visit. -/
structure Pending where
  steps : List String
  children : List (String × Entry)

/-- Whether a folder is a project of its own. -/
def holdsMakefile (children : List (String × Entry)) : Bool :=
  match Table.get? children makefileName with
  | some (.file _) => true
  | _ => false

/-- Whether a file's name ends in one of the extensions. -/
def WalkRules.admits (rules : WalkRules) (name : String) : Bool :=
  rules.extensions.any fun extension => extension.toList.isSuffixOf name.toList

/-- The files of a folder that a walk yields, in order. -/
def WalkRules.files (rules : WalkRules) (folder : Pending) : List FoundFile :=
  (Entry.sorted folder.children).filterMap fun (name, entry) =>
    match entry with
    | .file content => if rules.admits name then some ⟨folder.steps ++ [name], content⟩ else none
    | .folder _ => none

/-- A subfolder that a walk goes down into. -/
def WalkRules.subfolder? (rules : WalkRules) (steps : List String) :
    String × Entry → Option Pending
  | (_, .file _) => none
  | (name, .folder children) =>
    if rules.excludeDirs.contains name || holdsMakefile children then none
    else some ⟨steps ++ [name], children⟩

/-- The subfolders that a walk goes down into, in order. -/
def WalkRules.subfolders (rules : WalkRules) (folder : Pending) : List Pending :=
  (Entry.sorted folder.children).filterMap (rules.subfolder? folder.steps)

/-- How much there is to visit in some folders. -/
def weight : List Pending → Nat
  | [] => 0
  | folder :: rest => 1 + Entry.countAll folder.children + weight rest

theorem weight_append (first second : List Pending) :
    weight (first ++ second) = weight first + weight second := by
  induction first with
  | nil => simp [weight]
  | cons folder rest ih =>
    simp only [List.cons_append, weight, ih]
    omega

theorem weight_filterMap_le (rules : WalkRules) (steps : List String)
    (children : List (String × Entry)) :
    weight (children.filterMap (rules.subfolder? steps)) ≤ Entry.countAll children := by
  induction children with
  | nil => simp [weight, Entry.countAll]
  | cons child rest ih =>
    obtain ⟨name, entry⟩ := child
    cases entry with
    | file content =>
      simp only [List.filterMap_cons, WalkRules.subfolder?, Entry.countAll]
      omega
    | folder inner =>
      -- A subfolder that is passed over counts for nothing, any other for itself
      by_cases skipped : (rules.excludeDirs.contains name || holdsMakefile inner) = true
      · simp only [List.filterMap_cons, WalkRules.subfolder?, skipped, if_true, Entry.countAll]
        omega
      · simp only [List.filterMap_cons, WalkRules.subfolder?, skipped, Bool.false_eq_true, if_false,
          Entry.countAll, Entry.count, weight] at ih ⊢
        omega

theorem weight_subfolders_lt (rules : WalkRules) (folder : Pending) (rest : List Pending) :
    weight (rules.subfolders folder ++ rest) < weight (folder :: rest) := by
  -- Sorting moves the entries only, so the bound for the sorted ones holds for all
  have below := weight_filterMap_le rules folder.steps (Entry.sorted folder.children)
  rw [Entry.countAll_perm (Entry.sorted_perm folder.children)] at below
  simp only [weight, weight_append, WalkRules.subfolders] at below ⊢
  omega

/-- The files in pending folders, at most as many as asked for. -/
def WalkRules.walkFrom (rules : WalkRules) (budget : Option Nat) (pending : List Pending) :
    List FoundFile :=
  match pending with
  | [] => []
  | folder :: rest =>
    let found := rules.files folder
    have := weight_subfolders_lt rules folder rest
    match budget with
    -- depth first: the subfolders go in front of the folders that were pending before
    | none => found ++ rules.walkFrom none (rules.subfolders folder ++ rest)
    | some n =>
      if n ≤ found.length then found.take n
      else found ++ rules.walkFrom (some (n - found.length)) (rules.subfolders folder ++ rest)
termination_by weight pending

/-- The files of a project's folder. A limit below one still admits one file. -/
def WalkRules.walk (rules : WalkRules) (limit : Option Int) (children : List (String × Entry)) :
    List FoundFile :=
  rules.walkFrom (limit.map fun n => max 1 n.toNat) [⟨[], children⟩]

end MakeAtlas.Workspace
