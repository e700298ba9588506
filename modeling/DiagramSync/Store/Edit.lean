import DiagramSync.Store.Change
import DiagramSync.Store.Fault

/-!
# Editing the entities of a store

The seven ways to change the entities of a store.  Each of them either gives the entities
afterwards, or says why it is refused; nothing is changed on the way to a refusal.

* `Edit`, `Edit.operation`, `Edit.ownSource` — the edits, what they are called, and where they come
  from if nobody says
* `Edited` — what an edit hands back
* `Editing` — a computation that may draw ids and may be refused
* `Edit.run` — the entities after an edit
* `Store`, `Store.apply` — the entities with their version, and an edit on them that may be
  conditional on the version
-/

namespace DiagramSync

/-! ## Edits -/

/-- The attributes of a new field as they come in. -/
structure NewField where
  /-- The name. -/
  name : Value := .null
  /-- The type. -/
  type : Value := .text "string"
  /-- Marked as primary key. -/
  isPrimary : Value := .flag false
  /-- Marked as foreign key. -/
  isForeign : Value := .flag false
  /-- A remark about the column. -/
  description : Value := .null
  /-- Where a foreign key points. -/
  reference : Option Reference := none

/-- A way to change the entities of a store.  Entities and fields are named by their ids. -/
inductive Edit where
  | addEntity (name : Value)
  | renameEntity (entity : Option Id) (name : Value)
  | deleteEntity (entity : Option Id)
  | addField (entity : Option Id) (attributes : NewField)
  | updateField (entity field : Option Id) (updates : List (String × Value))
  | deleteField (entity field : Option Id)
  | setEntities (entities : List Entity)

/-- What an edit is called. -/
def Edit.operation : Edit → String
  | addEntity .. => "add_entity"
  | renameEntity .. => "rename_entity"
  | deleteEntity .. => "delete_entity"
  | addField .. => "add_field"
  | updateField .. => "update_field"
  | deleteField .. => "delete_field"
  | setEntities .. => "set_entities"

/-- The source of an edit if none is given: all entities at once are imported. -/
def Edit.ownSource : Edit → ChangeSource
  | setEntities .. => .import
  | _ => .editor

/-- What an edit hands back. -/
inductive Edited where
  | nothing
  | entity (e : Entity)
  | field (f : Field)

/-- A computation that may draw ids and may be refused. -/
abbrev Editing (α : Type) :=
  StateT Supply (Except Fault) α

/-- A reading as an editing. -/
def Editing.ofReader (x : Reader α) : Editing α := fun s =>
  match x s with
  | .ok r => .ok r
  | .error reason => .error (.refused reason)

/-! ## Finding -/

/-- The first entity with that id. -/
def findEntity? (es : List Entity) (id : Option Id) : Option Entity :=
  es.find? fun e => some e.id == id

/-- The first entity with that id, which must be there. -/
def demandEntity (es : List Entity) (id : Option Id) : Editing Entity :=
  match findEntity? es id with
  | some e => pure e
  | none => throw (.entityNotFound id)

/-- The first field with that id, which must be there. -/
def demandField (e : Entity) (id : Option Id) : Editing Field :=
  match e.fields.find? fun f => some f.id == id with
  | some f => pure f
  | none => throw (.fieldNotFound e.name id)

/-- The list with the first item that has the property replaced by its image. -/
def modifyFirst (p : α → Bool) (g : α → α) : List α → List α
  | [] => []
  | x :: xs => if p x then g x :: xs else x :: modifyFirst p g xs

/-- The entities with the first one of that id replaced by its image. -/
def modifyEntity (id : Id) (g : Entity → Entity) (es : List Entity) : List Entity :=
  modifyFirst (fun e => e.id == id) g es

/-! ## Names -/

/-- The cleaned name of an entity, which must neither be empty nor be the name of an entity other
than the one to be renamed. -/
def validEntityName (es : List Entity) (renamed : Option Id) (name : Value) : Editing String := do
  match name.nameText with
  | .error shape => throw (.refused (.notText shape))
  | .ok text =>
    let cleaned := cleanEntityName text
    if cleaned = "" then
      throw .emptyEntityName
    match es.find? fun e =>
        some e.id != renamed && Text.foldName e.name == Text.foldName cleaned with
    | some e => throw (.entityExists e.name)
    | none => return cleaned

/-- Demands that a field may stand in the entity, in place of the field with the id `replaced`: it
has a name, no other field has that name, and its reference points nowhere or at an entity. -/
def demandFits (es : List Entity) (e : Entity) (replaced : Option Id) (f : Field) :
    Editing Unit := do
  if f.name = "" then
    throw .emptyFieldName
  match e.fields.find? fun g =>
      some g.id != replaced && Text.foldName g.name == Text.foldName f.name with
  | some g => throw (.fieldExists g.name e.name)
  | none => pure ()
  match f.reference with
  | some r => if r.isLinked then let _ ← demandEntity es (some r.target)
  | none => pure ()

/-! ## References -/

/-- The entities after that one is gone: references to it point nowhere. -/
def unlinkEntity (id : Id) (es : List Entity) : List Entity :=
  es.map fun e => e.mapReferences fun r => if r.target == id then r.unlink else r

/-- The entities after that field is gone: references to it point at the entity alone. -/
def unlinkField (id : Id) (es : List Entity) : List Entity :=
  es.map fun e => e.mapReferences fun r =>
    if r.targetField == id then { r with targetField := .unresolved } else r

/-- The entities in which every reference that points at none of them points nowhere. -/
def unlinkStrangers (es : List Entity) : List Entity :=
  es.map fun e => e.mapReferences fun r =>
    if r.isLinked && !es.any (fun t => t.id == r.target) then r.unlink else r

/-! ## The edits one by one -/

/-- The reference that a foreign key has before it is linked. -/
def unlinkedReference (unlinked : Cardinality) : Reference :=
  { cardinality := unlinked }

/-- The entities with a new one at the end. -/
def runAddEntity (es : List Entity) (name : Value) : Editing (List Entity × Edited) := do
  let name ← validEntityName es none name
  let id ← Editing.ofReader Reader.draw
  let e : Entity := { id, name }
  return (es ++ [e], .entity e)

/-- The entities with one of them renamed. -/
def runRenameEntity (es : List Entity) (entity : Option Id) (name : Value) :
    Editing (List Entity × Edited) := do
  let e ← demandEntity es entity
  let name ← validEntityName es entity name
  let renamed := { e with name }
  return (modifyEntity e.id (fun _ => renamed) es, .entity renamed)

/-- The entities without one of them. -/
def runDeleteEntity (es : List Entity) (entity : Option Id) : Editing (List Entity × Edited) := do
  let e ← demandEntity es entity
  return (unlinkEntity e.id (es.eraseP fun x => x.id == e.id), .nothing)

/-- The record of a new field.  A foreign key that points nowhere yet has the cardinality
`unlinked`. -/
def NewField.attributes (unlinked : Cardinality) (n : NewField) : List (String × Value) :=
  let reference :=
    match n.reference with
    | some r => r.dump
    | none => if n.isForeign.isTruthy then (unlinkedReference unlinked).dump else .null
  [("name", n.name), ("type", n.type), ("is_pk", n.isPrimary), ("is_fk", n.isForeign),
   ("description", n.description), ("fk_reference", reference)]

/-- The entities with a new field at the end of one of them. -/
def runAddField (unlinked : Cardinality) (es : List Entity) (entity : Option Id) (n : NewField) :
    Editing (List Entity × Edited) := do
  let e ← demandEntity es entity
  let f ← Editing.ofReader (Field.read (.record (n.attributes unlinked)))
  demandFits es e none f
  return (modifyEntity e.id (fun e => { e with fields := e.fields ++ [f] }) es, .field f)

/-- The attributes of a field that can be updated. -/
def updatableAttributes : List String :=
  ["name", "type", "is_pk", "is_fk", "description", "fk_reference"]

/-- The attributes with those of the updates in their place. -/
def overwrite (attributes updates : List (String × Value)) : List (String × Value) :=
  attributes.map fun a => (a.1, (Value.find? updates a.1).getD a.2)

/-- The record of a field after updates.  A field that becomes a foreign key has the cardinality
`unlinked` until it is linked. -/
def updatedAttributes (unlinked : Cardinality) (f : Field) (updates : List (String × Value)) :
    List (String × Value) :=
  let merged := overwrite f.dump updates
  let fillIn (a : String × Value) : String × Value :=
    match a with
    | ("fk_reference", .null) =>
      if (Value.get "is_fk" (.record merged)).isTruthy then
        ("fk_reference", (unlinkedReference unlinked).dump)
      else a
    | _ => a
  merged.map fillIn

/-- The entities with one field of one of them updated. -/
def runUpdateField (unlinked : Cardinality) (es : List Entity) (entity field : Option Id)
    (updates : List (String × Value)) : Editing (List Entity × Edited) := do
  let e ← demandEntity es entity
  let f ← demandField e field
  let unknown := (updates.map (·.1)).filter fun a => !updatableAttributes.contains a
  if !unknown.isEmpty then
    throw (.unknownAttributes (unknown.mergeSort fun a b => decide (a ≤ b)))
  let updated ← Editing.ofReader (Field.read (.record (updatedAttributes unlinked f updates)))
  demandFits es e field updated
  let replace (e : Entity) : Entity :=
    { e with fields := modifyFirst (fun g => g.id == f.id) (fun _ => updated) e.fields }
  return (modifyEntity e.id replace es, .field updated)

/-- The entities without one field of one of them. -/
def runDeleteField (es : List Entity) (entity field : Option Id) :
    Editing (List Entity × Edited) := do
  let e ← demandEntity es entity
  let f ← demandField e field
  let remove (e : Entity) : Entity := { e with fields := e.fields.eraseP fun g => g.id == f.id }
  return (unlinkField f.id (modifyEntity e.id remove es), .nothing)

/-- Demands that every entity has a name and no two have the same name but for case; `seen` are the
names before. -/
def demandDistinct (seen : List String) : List Entity → Editing Unit
  | [] => pure ()
  | e :: es => do
    if e.name = "" then
      throw .emptyEntityName
    match seen.find? fun n => Text.foldName n == Text.foldName e.name with
    | some n => throw (.sameButForCase n e.name)
    | none => demandDistinct (seen ++ [e.name]) es

/-- The given entities in place of all others. -/
def runSetEntities (replacement : List Entity) : Editing (List Entity × Edited) := do
  demandDistinct [] replacement
  return (unlinkStrangers replacement, .nothing)

/-- The entities after an edit, and what it hands back. -/
def Edit.run (unlinked : Cardinality) (es : List Entity) : Edit → Editing (List Entity × Edited)
  | addEntity name => runAddEntity es name
  | renameEntity entity name => runRenameEntity es entity name
  | deleteEntity entity => runDeleteEntity es entity
  | addField entity attributes => runAddField unlinked es entity attributes
  | updateField entity field updates => runUpdateField unlinked es entity field updates
  | deleteField entity field => runDeleteField es entity field
  | setEntities entities => runSetEntities entities

/-! ## The store -/

/-- The entities of a project with a version that every edit raises. -/
structure Store where
  /-- The entities in order. -/
  entities : List Entity := []
  /-- How many edits led here. -/
  version : Nat := 0

namespace Store

/-- The store after an edit.  With an expected version the edit is refused if the store has
another one. -/
def apply (unlinked : Cardinality) (expected : Option Int) (edit : Edit) (s : Store) :
    Editing (Store × Edited) := do
  match expected with
  | some v => if v ≠ s.version then throw (.stale (toString v) s.version)
  | none => pure ()
  let (entities, edited) ← edit.run unlinked s.entities
  return ({ entities, version := s.version + 1 }, edited)

/-- The first entity of that name, without regard to case. -/
def findNamed? (name : String) (s : Store) : Option Entity :=
  let wanted := Text.foldName (cleanEntityName name)
  s.entities.find? fun e => Text.foldName e.name == wanted

end Store

end DiagramSync
