/-!
# Ids

Entities and fields are told apart by ids.  An id says nothing: ids are compared for equality and
carried along, never taken apart.

* `Id` — the id of an entity or a field
* `Id.unresolved` — the id that a reference carries while it points nowhere
* `Supply`, `Supply.draw` — where new ids come from
-/

namespace DiagramSync

/-- The id of an entity or of a field. -/
structure Id where
  /-- The text that stands for the id. -/
  text : String
  deriving Repr, DecidableEq, Inhabited

/-- The id of no entity and no field: a reference that is not linked yet carries it. -/
def Id.unresolved : Id :=
  ⟨"__unresolved__"⟩

/-- A supply of new ids: `mint n` is the id that the `n`th draw gives. -/
structure Supply where
  /-- The ids in the order in which they are given out. -/
  mint : Nat → Id
  /-- How many have been given out. -/
  drawn : Nat := 0

/-- The next new id, and the supply after it. -/
def Supply.draw : StateM Supply Id := fun s =>
  (s.mint s.drawn, { s with drawn := s.drawn + 1 })

end DiagramSync
