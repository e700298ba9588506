import DiagramSync.Model.Cardinality
import DiagramSync.Model.FieldType
import DiagramSync.Model.Identity
import DiagramSync.Text.Case

/-!
# Entities and their fields

The entity-relationship model: entities in order, each with its fields in order, and on a foreign
key field the reference to the entity and field it points at.

* `Reference`, `Field`, `Entity` — the model
* `Reference.isLinked` — a target has been assigned
* `Field.mapReference`, `Entity.mapReferences` — references replaced by their images
* `Entity.findField?`, `Entity.findFieldNamed?`, `Entity.primaryKey?` — looking up fields
-/

namespace DiagramSync

/-! ## Types -/

/-- The reference of a foreign key field. -/
structure Reference where
  /-- The entity pointed at. -/
  target : Id := .unresolved
  /-- The field pointed at. -/
  targetField : Id := .unresolved
  /-- How many rows stand at either end. -/
  cardinality : Cardinality := .manyToOne
  /-- What the relationship line says; by default it says the name of the field. -/
  label : Option String := none
  deriving Repr, DecidableEq, Inhabited

/-- One column of an entity. -/
structure Field where
  /-- Tells the field apart. -/
  id : Id
  /-- The name, unique in its entity. -/
  name : String
  /-- The type of the column. -/
  type : FieldType := .string
  /-- Marked as primary key. -/
  isPrimary : Bool := false
  /-- Marked as foreign key. -/
  isForeign : Bool := false
  /-- A remark about the column. -/
  description : Option String := none
  /-- Where a foreign key points. -/
  reference : Option Reference := none
  deriving Repr, DecidableEq, Inhabited

/-- An entity with its fields in order. -/
structure Entity where
  /-- Tells the entity apart. -/
  id : Id
  /-- The name, unique in the model. -/
  name : String
  /-- The columns in order. -/
  fields : List Field := []
  deriving Repr, DecidableEq, Inhabited

/-! ## References -/

/-- A target entity has been assigned. -/
def Reference.isLinked (r : Reference) : Bool :=
  r.target != .unresolved

/-- The reference without its targets; cardinality and label stay. -/
def Reference.unlink (r : Reference) : Reference :=
  { r with target := .unresolved, targetField := .unresolved }

/-- The field has a reference that points somewhere. -/
def Field.isLinked (f : Field) : Bool :=
  match f.reference with
  | some r => r.isLinked
  | none => false

/-- The field with its reference, if it has one, replaced by its image. -/
def Field.mapReference (g : Reference → Reference) (f : Field) : Field :=
  { f with reference := f.reference.map g }

/-- The entity with the references of all its fields replaced by their images. -/
def Entity.mapReferences (g : Reference → Reference) (e : Entity) : Entity :=
  { e with fields := e.fields.map (·.mapReference g) }

/-! ## Looking up -/

namespace Entity

/-- The first field with that id. -/
def findField? (e : Entity) (id : Id) : Option Field :=
  e.fields.find? fun f => f.id == id

/-- The first field of that name, without regard to case. -/
def findFieldNamed? (e : Entity) (name : String) : Option Field :=
  e.fields.find? fun f => Text.foldName f.name == Text.foldName name

/-- The first field that is marked as primary key. -/
def primaryKey? (e : Entity) : Option Field :=
  e.fields.find? fun f => f.isPrimary

end Entity

end DiagramSync
