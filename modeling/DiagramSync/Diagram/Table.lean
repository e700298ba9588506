import DiagramSync.Model.Entity
import DiagramSync.Model.Wording

/-!
# Tables: what is written of an entity

A diagram is written from tables.  An entity is seen as a table by forgetting what is not written;
a table may also stand for something that never was an entity, with names that were not cleaned, no
name at all, or a type that is not one of the known ones.  Names are cleaned again on the way out,
and what has no name gets one from its position.

* `Column`, `Table` — what is written
* `Field.toColumn`, `Entity.toTable` — a field and an entity seen that way
* `Column.shownName`, `Table.shownName` — the names as they are written
-/

namespace DiagramSync

/-- What is written of a field. -/
structure Column where
  /-- The name as it was given. -/
  name : String
  /-- The written name of the type. -/
  typeText : String
  /-- Marked as primary key. -/
  isPrimary : Bool
  /-- Marked as foreign key. -/
  isForeign : Bool
  /-- The description as it was given. -/
  description : Option String
  /-- Where a foreign key points. -/
  reference : Option Reference
  deriving Repr, DecidableEq

/-- What is written of an entity. -/
structure Table where
  /-- Tells the table apart, so that references find it. -/
  id : Id
  /-- The name as it was given. -/
  name : String
  /-- The columns in order. -/
  columns : List Column
  deriving Repr, DecidableEq

/-- What is written of a field. -/
def Field.toColumn (f : Field) : Column where
  name := f.name
  typeText := f.type.word
  isPrimary := f.isPrimary
  isForeign := f.isForeign
  description := f.description
  reference := f.reference

/-- What is written of an entity. -/
def Entity.toTable (e : Entity) : Table where
  id := e.id
  name := e.name
  columns := e.fields.map Field.toColumn

/-- The name under which the column at that position, counted from zero, is written. -/
def Column.shownName (position : Nat) (c : Column) : String :=
  let name := cleanFieldName c.name
  if name = "" then s!"field_{position + 1}" else name

/-- The name under which the table at that position, counted from zero, is written. -/
def Table.shownName (position : Nat) (t : Table) : String :=
  let name := cleanEntityName t.name
  if name = "" then s!"Entity_{position + 1}" else name

/-- A table with the name under which it is written. -/
structure ShownTable where
  /-- The name. -/
  name : String
  /-- The table. -/
  table : Table
  deriving Repr, DecidableEq

/-- The tables with their names, for positions from the given one on. -/
def Table.showFrom (position : Nat) : List Table → List ShownTable
  | [] => []
  | t :: ts => ⟨t.shownName position, t⟩ :: showFrom (position + 1) ts

end DiagramSync
