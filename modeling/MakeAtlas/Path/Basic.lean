import MakeAtlas.Text.Blank

/-!
# Paths

Project roots, evidence files and the paths that sources and Makefiles mention are texts with
forward slashes. They are compared by their *steps*, the pieces between slashes that are neither
empty nor `.`, and never by looking at the file system: symbolic links play no part.

A path's *normal form* is its anchor (no slash, one or two), followed by its steps with every `..`
that has a step to take back resolved; the empty path is written `.`.

* `collapse_append`   resolving a path's steps one part after the other
* `resolve_of_anchored`   an anchored path ignores the folder it is resolved in
-/

namespace MakeAtlas.Path

open MakeAtlas.Text

/-- The step to the parent folder. -/
def up : List Char := ['.', '.']

/-- The step that stays where it is. -/
def here : List Char := ['.']

/-- A path with forward slashes only. -/
def forward (cs : List Char) : List Char :=
  cs.map fun c => if c = '\\' then '/' else c

/-- The pieces between slashes that name something or go up. -/
def steps (cs : List Char) : List (List Char) :=
  (splitWhen (· == '/') cs).filter fun step => !step.isEmpty && step != here

/-- The slashes that anchor a path: exactly two at the front stay two, any other number is one. -/
def anchor : List Char → List Char
  | '/' :: '/' :: '/' :: _ => ['/']
  | '/' :: '/' :: _ => ['/', '/']
  | '/' :: _ => ['/']
  | _ => []

/-- One step further along a trail, whose last step comes first. Going up from an anchor stays
there; going up from nowhere, or from a `..`, is kept. -/
def advance (anchored : Bool) (trail : List (List Char)) (step : List Char) : List (List Char) :=
  if step = up then
    match trail with
    | [] => if anchored then [] else [up]
    | last :: above => if last = up then up :: trail else above
  else step :: trail

/-- The steps of a path with every `..` resolved that can be. -/
def collapse (anchored : Bool) (names : List (List Char)) : List (List Char) :=
  (names.foldl (advance anchored) []).reverse

/-- Steps written with slashes between them. -/
def joinSteps : List (List Char) → List Char
  | [] => []
  | [step] => step
  | step :: rest => step ++ '/' :: joinSteps rest

/-- The normal form of a path that has forward slashes only. -/
def normal (cs : List Char) : List Char :=
  let start := anchor cs
  match start ++ joinSteps (collapse (!start.isEmpty) (steps cs)) with
  | [] => here
  | text => text

/-- Whether a path starts at the root of the file system. -/
def isAnchored (cs : List Char) : Bool :=
  cs.head? == some '/'

/-- A folder and a path below it, written as one path. -/
def append (folder path : List Char) : List Char :=
  if isAnchored path then path
  else if folder.isEmpty || folder.getLast? == some '/' then folder ++ path
  else folder ++ '/' :: path

/-- Resolving steps is done from left to right. -/
theorem collapse_append (anchored : Bool) (first second : List (List Char)) :
    collapse anchored (first ++ second) =
      (second.foldl (advance anchored) (collapse anchored first).reverse).reverse := by
  simp [collapse, List.foldl_append]

theorem append_of_isAnchored {path : List Char} (h : isAnchored path = true)
    (folder : List Char) : append folder path = path := by
  simp [append, h]

/-! ## Paths as strings -/

/-- A path with backslashes read as slashes. -/
def toForward (path : String) : String :=
  String.ofList (forward path.toList)

/-- The normal form of a path; backslashes count as slashes. -/
def normalize (path : String) : String :=
  String.ofList (normal (forward path.toList))

/-- A path without empty steps and steps that stay where they are. -/
def plain (path : String) : String :=
  match anchor path.toList ++ joinSteps (steps path.toList) with
  | [] => "."
  | text => String.ofList text

/-- Whether a path, once normal, begins by climbing out of the folder it is relative to. -/
def climbs (path : String) : Bool :=
  hasPrefix ['.', '.', '/'] (normalize path).toList

/-- Whether a root stands for the whole workspace. -/
def isWorkspaceRoot (root : String) : Bool :=
  root == "" || root == "."

/-- The workspace-relative form of a path given relative to a project root. -/
def underRoot (root path : String) : String :=
  if isWorkspaceRoot root then normalize path else normalize (root ++ "/" ++ path)

/-- The normal form of a path seen from a folder. The folder's text is taken as it is; backslashes
in the path count as slashes. -/
def resolve (folder path : String) : String :=
  String.ofList (normal (append folder.toList (forward path.toList)))

theorem resolve_of_anchored {path : String} (h : isAnchored (forward path.toList) = true)
    (folder : String) : resolve folder path = String.ofList (normal (forward path.toList)) := by
  rw [resolve, append_of_isAnchored h]

/-- The steps that two lists begin with in common are dropped from both. -/
def dropCommon : List (List Char) → List (List Char) → List (List Char) × List (List Char)
  | a :: as, b :: bs => if a = b then dropCommon as bs else (a :: as, b :: bs)
  | as, bs => (as, bs)

/-- A path seen from a folder, from the root of the file system on and with no step that goes
back. -/
def absolute (folder path : String) : String :=
  String.ofList ('/' :: joinSteps (collapse true (steps (append folder.toList path.toList))))

/-- How to reach a path from a folder, climbing where needed. Paths without an anchor start at the
same place as the folder does. The empty path names nothing. -/
def relativeTo? (path folder : String) : Option String :=
  if path.isEmpty then none
  else
    let absolute (p : String) : List (List Char) := collapse true (steps p.toList)
    -- up from the folder to where the two paths part, then down
    let (climb, descend) := dropCommon (absolute folder) (absolute path)
    match joinSteps (climb.map (fun _ => up) ++ descend) with
    | [] => some "."
    | text => some (String.ofList (forward text))

/-- Whether an absolute path is a folder or lies below it. -/
def isWithin (path folder : String) : Bool :=
  path == folder ||
    hasPrefix (if folder.toList.getLast? == some '/' then folder.toList else folder.toList ++ ['/'])
      path.toList

/-- Whether a workspace-relative path belongs to a project's root. -/
def belongsTo (path root : String) : Bool :=
  if isWorkspaceRoot root then !climbs path
  else path == root || hasPrefix (dropEndWhile (· == '/') root.toList ++ ['/']) path.toList

/-- The folder part of a path: what stands before the last slash, without the slashes at its end
unless it is made of slashes alone. -/
def folderPart (cs : List Char) : List Char :=
  -- with its last slash
  let head := dropEndWhile (· != '/') cs
  if head.all (· == '/') then head else dropEndWhile (· == '/') head

/-- The last piece of a path. -/
def lastPart (cs : List Char) : List Char :=
  (cs.reverse.takeWhile (· != '/')).reverse

end MakeAtlas.Path
