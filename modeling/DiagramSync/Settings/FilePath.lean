import DiagramSync.Text.Search

/-!
# File paths

A file path is kept in one spelling: one slash between its segments, none at the end, and no
segment that stays where it is.

* `normalPath` — the kept spelling of a path
-/

namespace DiagramSync

/-- The slashes that a path starts from.  Two slashes and no more are a root of their own; any other
number is the same as one. -/
def pathRoot : List Char → String
  | '/' :: '/' :: '/' :: _ => "/"
  | '/' :: '/' :: _ => "//"
  | '/' :: _ => "/"
  | _ => ""

/-- The segments of a path, without those that stay where they are. -/
def pathSegments (path : List Char) : List String :=
  ((Text.words (· == '/') path).map String.ofList).filter (· ≠ ".")

/-- A path in its kept spelling; a path that goes nowhere is a point. -/
def normalPath (path : String) : String :=
  let normal := pathRoot path.toList ++ "/".intercalate (pathSegments path.toList)
  if normal = "" then "." else normal

end DiagramSync
