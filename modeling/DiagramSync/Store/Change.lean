/-!
# Changes of the store

Whoever watches the store is told of each change: the version that it led to, who caused it and
which operation it was.

* `ChangeSource` — who caused a change
* `Change` — what is told
-/

namespace DiagramSync

/-- Who caused a change. -/
inductive ChangeSource where
  | text
  | editor
  | import
  | system
  deriving Repr, DecidableEq, Inhabited

namespace ChangeSource

/-- The sources in the order in which they are listed. -/
def all : List ChangeSource :=
  [text, editor, .import, system]

/-- The written name. -/
def word : ChangeSource → String
  | text => "text"
  | editor => "editor"
  | .import => "import"
  | system => "system"

/-- The source with that written name. -/
def ofWord? (w : String) : Option ChangeSource :=
  all.find? fun s => s.word == w

end ChangeSource

/-- What is told of a change. -/
structure Change where
  /-- The version that the change led to. -/
  version : Nat
  /-- Who caused it. -/
  source : ChangeSource
  /-- The operation. -/
  operation : String
  deriving Repr, DecidableEq

end DiagramSync
