import MakeAtlas.Text.Glob
import MakeAtlas.Text.Lines

/-!
# Ignore patterns

Patterns that keep parts of a workspace out of the search for Makefiles. A pattern is matched
against an entry's name and against its workspace-relative path; one that ends in a slash is for
folders only, and slashes at its start mean nothing.
-/

namespace MakeAtlas.Workspace

open MakeAtlas.Text

/-- Folders that are never searched for Makefiles. -/
def builtinIgnores : List String :=
  [".git", ".svn", ".hg", ".nx", "node_modules", "__pycache__"]

/-- Whether one pattern names an entry. -/
def isIgnoredBy (path name : String) (isFolder : Bool) (pattern : String) : Bool :=
  let pattern := pattern.toList
  let foldersOnly := pattern.getLast? == some '/'
  let body := if foldersOnly then dropEndWhile (· == '/') pattern else pattern
  let glob := body.dropWhile (· == '/')
  (isFolder || !foldersOnly) && (Glob.accepts glob name.toList || Glob.accepts glob path.toList)

/-- Whether any pattern names an entry. -/
def isIgnored (patterns : List String) (path name : String) (isFolder : Bool) : Bool :=
  patterns.any (isIgnoredBy path name isFolder)

/-- The patterns in the text of an ignore file: its lines, trimmed, without empty ones, comments and
negations. -/
def ignorePatterns (text : List Char) : List String :=
  (newlineParts text).filterMap fun line =>
    match trim line with
    | [] | '#' :: _ | '!' :: _ => none
    | pattern => some (String.ofList pattern)

end MakeAtlas.Workspace
