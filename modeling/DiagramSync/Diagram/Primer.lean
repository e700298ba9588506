import DiagramSync.Diagram.Scan

/-!
# A primer of the notation

What an editor shows to somebody who starts to write a diagram.  The header, the comment markers,
the types and the symbols are those that reading and writing use.

* `keyMarkers` — the markers of key fields
* `minimalExample` — a small diagram
-/

namespace DiagramSync

/-- The markers of key fields. -/
def keyMarkers : List String :=
  ["PK", "FK"]

/-- A diagram with one entity. -/
def minimalExample : String :=
  header ++ "\n  \"Users\" \x7b\n    int id PK\n  \x7d\n"

end DiagramSync
