import MakeAtlas.Evidence.Strategy

/-!
# Dependencies of a workspace

Every strategy looks at every visited project, project by project; what they resolve is collapsed to
one dependency for each pair of projects. A strategy that fails for a project is reported and
contributes nothing there; a failure of the settings ends the search.

* `gather_append`   projects are looked at one after the other
-/

namespace MakeAtlas.Inference

/-- What has been resolved, and what is said about failures. -/
structure Findings where
  resolutions : List Resolution := []
  warnings : List String := []

namespace Findings

/-- Findings one after the other. -/
def append (a b : Findings) : Findings :=
  ⟨a.resolutions ++ b.resolutions, a.warnings ++ b.warnings⟩

theorem append_assoc (a b c : Findings) : (a.append b).append c = a.append (b.append c) := by
  simp [append, List.append_assoc]

end Findings

/-- What a strategy finds for a project, or why the search ends. -/
def attempt (p : Project) (strategy : Strategy) : Except String Findings :=
  match strategy.find p with
  | .ok resolutions => .ok { resolutions }
  | .error (.recoverable reason) =>
    .ok { warnings := ["Strategy " ++ strategy.name ++ " failed for " ++ p.name ++ ": " ++ reason] }
  | .error (.configuration reason) => .error reason

/-- What all members of a list find, one after the other; the first that ends the search ends it. -/
def collect {α : Type} (find : α → Except String Findings) : List α → Except String Findings
  | [] => .ok {}
  | a :: rest => do
    let first ← find a
    let others ← collect find rest
    .ok (first.append others)

/-- What strategies find for projects. -/
def gather (strategies : List Strategy) (projects : List Project) : Except String Findings :=
  collect (fun p => collect (attempt p) strategies) projects

/-- The projects that are looked at: all, or those with one of some names. -/
def visited (projects : Table Project) : (changed : Option (List String)) → List Project
  | none => projects.values
  | some names => Table.values (projects.filter fun entry => names.contains entry.1)

/-- The dependencies that strategies find, and what is said about failures. -/
def dependencies (strategies : List Strategy) (projects : Table Project)
    (changed : Option (List String)) : Except String (List Dependency × List String) :=
  (gather strategies (visited projects changed)).map fun findings =>
    (Resolution.collapse findings.resolutions, findings.warnings)

theorem collect_append {α : Type} (find : α → Except String Findings) (xs ys : List α) :
    collect find (xs ++ ys) =
      (collect find xs).bind fun a => (collect find ys).map fun b => a.append b := by
  induction xs with
  | nil =>
    -- Nothing found before the second list adds nothing to it
    cases h : collect find ys <;> simp [collect, h, Except.bind, Except.map, Findings.append]
  | cons x xs ih =>
    simp only [List.cons_append, collect, ih]
    -- The first failure decides on both sides
    cases find x with
    | error e => rfl
    | ok a =>
      cases collect find xs with
      | error e => rfl
      | ok b =>
        cases collect find ys with
        | error e => rfl
        | ok c => simp [bind, Except.bind, Except.map, Findings.append_assoc]

theorem gather_append (strategies : List Strategy) (ps qs : List Project) :
    gather strategies (ps ++ qs) =
      (gather strategies ps).bind fun a => (gather strategies qs).map fun b => a.append b :=
  collect_append _ ps qs

end MakeAtlas.Inference
