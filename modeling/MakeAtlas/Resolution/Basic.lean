import MakeAtlas.Distinct
import MakeAtlas.Project.Dependency
import MakeAtlas.Resolution.Owner

/-!
# From references to dependencies

A reference is a path that a file of a project mentions, seen from the project's root. Only a path
that climbs out of the project can lead to another one; it leads to the project that owns it. Every
reference is answered by a resolution, also those that give no dependency.

* `collapse`   one dependency for each pair of projects, the first one found
-/

namespace MakeAtlas

/-- Why a reference to another project gives no dependency. -/
inductive Rejection where
  /-- Several projects own the path. -/
  | ambiguous (owners : List String)
  | malformed (e : Record.Invalid)
  | unfounded (why : Dependency.Invalidity)

/-- What is said of a rejected reference, with a note on each cause of a fault. -/
def Rejection.message (note : Record.Cause → String) : Rejection → String
  | .ambiguous owners => "ambiguous owners: " ++ String.intercalate ", " (owners.mergeSort (· ≤ ·))
  | .malformed e => e.message note
  | .unfounded why => why.message

/-- What a reference leads to. -/
inductive Outcome where
  | resolved (d : Dependency)
  /-- The path stays inside the project. -/
  | notCandidate
  /-- No project owns the path. -/
  | noMatch
  /-- The project owns the path itself. -/
  | selfReference
  | invalid (why : Rejection)

namespace Outcome

/-- The name of a kind of outcome. -/
def status : Outcome → String
  | .resolved _ => "resolved"
  | .notCandidate => "not_candidate"
  | .noMatch => "no_match"
  | .selfReference => "self_reference"
  | .invalid _ => "invalid"

/-- The dependency that was found. -/
def dependency? : Outcome → Option Dependency
  | .resolved d => some d
  | _ => none

/-- Why there is no dependency, if there might have been one. -/
def reason? (note : Record.Cause → String) : Outcome → Option String
  | .invalid why => some (why.message note)
  | _ => none

end Outcome

/-- A reference of a project and what it leads to. -/
structure Resolution where
  source : String
  candidate : String
  outcome : Outcome

/-- The projects of a workspace, and where they lie. -/
structure Atlas where
  projects : Table Project
  index : RootIndex

namespace Atlas

/-- The atlas of the projects of the workspace at an absolute path. -/
def ofProjects (location : String) (projects : Table Project) : Atlas :=
  ⟨projects, .ofProjects location projects.values⟩

/-- The absolute path that a project's reference names. -/
def target (atlas : Atlas) (source : Project) (candidate : String) : String :=
  Path.resolve (atlas.index.absoluteRoot source.root) (Path.normalize candidate)

/-- The dependency of one project on another, if it holds among the projects. -/
def found (atlas : Atlas) (source target evidence : String) (line : Option Int) : Outcome :=
  match Dependency.ofFound source target evidence line with
  | .error e => .invalid (.malformed e)
  | .ok d =>
    match d.invalidity atlas.projects with
    | some why => .invalid (.unfounded why)
    | none => .resolved d

/-- What a path mentioned by a project leads to, given the file and line that mention it. -/
def outcome (atlas : Atlas) (source : Project) (candidate evidence : String)
    (line : Option Int) : Outcome :=
  if Path.climbs candidate then
    -- a path may climb out of the project and come back into it
    match atlas.index.owners (atlas.target source candidate) with
    | [] => .noMatch
    | [owner] =>
      if owner = source.name then .selfReference
      else atlas.found source.name owner evidence line
    | owners => .invalid (.ambiguous owners)
  else .notCandidate

/-- The resolution of a path mentioned by a project. -/
def resolve (atlas : Atlas) (source : Project) (candidate evidence : String) (line : Option Int) :
    Resolution :=
  ⟨source.name, candidate, atlas.outcome source candidate evidence line⟩

end Atlas

namespace Resolution

/-- The dependencies that were found, repeated ones included. -/
def dependencies (resolutions : List Resolution) : List Dependency :=
  resolutions.filterMap fun r => r.outcome.dependency?

/-- The dependencies that were found, the first one for each pair of projects. -/
def collapse (resolutions : List Resolution) : List Dependency :=
  distinctBy Dependency.ends (dependencies resolutions)

/-- How many resolutions have each status, in the order in which the statuses first occur. -/
def summary (resolutions : List Resolution) : Table Nat :=
  resolutions.foldl
    (fun counts r => counts.put r.outcome.status ((counts.get? r.outcome.status).getD 0 + 1)) []

theorem dependencies_append (first second : List Resolution) :
    dependencies (first ++ second) = dependencies first ++ dependencies second :=
  List.filterMap_append

end Resolution

end MakeAtlas
