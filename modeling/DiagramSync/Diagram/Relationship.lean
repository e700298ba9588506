import DiagramSync.Model.Cardinality

/-!
# Relationship lines

A relationship line names the two entities that it joins and nothing of their fields; which foreign
key it speaks of has to be found out afterwards.

* `Relationship` — a relationship as it was read
-/

namespace DiagramSync

/-- A relationship statement of a diagram. -/
structure Relationship where
  /-- The entity on the left of the symbol. -/
  source : String
  /-- The entity on the right of the symbol. -/
  target : String
  /-- The symbol as it is written. -/
  symbol : String
  /-- What the symbol means. -/
  cardinality : Cardinality
  /-- The label, if there is one. -/
  label : Option String := none
  /-- The line is solid. -/
  identifying : Bool := true
  /-- The line of the diagram, counted from one. -/
  line : Option Int := none
  deriving Repr, DecidableEq

end DiagramSync
