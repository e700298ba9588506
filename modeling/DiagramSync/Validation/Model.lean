import DiagramSync.Model.Entity
import DiagramSync.Model.Wording
import DiagramSync.Validation.Checked

/-!
# Reading entities out of loose values

Entities, fields and references are read from records.  Names, descriptions and labels are
cleaned, types are recognised, a missing id is drawn from the supply, and a field ends up with a
reference exactly when it is a foreign key.

* `Refusal` — why a value was not read
* `Reference.read`, `Field.read`, `Entity.read` — the readers
* `Field.settle` — the rule that ties the foreign key flag to the reference
* `Field.dump` — the record that a field is read back from
-/

namespace DiagramSync

/-- Why a loose value was not read. -/
inductive Refusal where
  /-- A name is no text; this is noticed before anything else is checked. -/
  | notText (shape : Value.Shape)
  /-- Attributes that could not be read. -/
  | invalid (issues : List Issue)
  deriving Repr, DecidableEq

/-- A reader that may draw ids. -/
abbrev Reader (α : Type) :=
  StateT Supply (Except Refusal) α

namespace Reader

/-- The next new id. -/
def draw : Reader Id := fun s =>
  .ok (Supply.draw s)

/-- What was read, or the refusal that carries the issues. -/
def ofChecked (x : Checked α) : Reader α := fun s =>
  match x with
  | .good a => .ok (a, s)
  | .bad is => .error (.invalid is)

/-- Refuses the first of the given names that is no text. -/
def demandNames : List Value → Reader Unit
  | [] => pure ()
  | v :: vs =>
    match v.nameText with
    | .ok _ => demandNames vs
    | .error shape => throw (.notText shape)

end Reader

/-! ## References -/

/-- Reads the attributes of a reference. -/
def Reference.check : Value → Checked Reference
  | .record as =>
    (fun target field cardinality label =>
        { target := ⟨target⟩, targetField := ⟨field⟩, cardinality, label := cleanRemark label }) <$>
      Checked.optional as "target_entity_id" Id.unresolved.text Checked.text <*>
      Checked.optional as "target_field_id" Id.unresolved.text Checked.text <*>
      Checked.optional as "cardinality" .manyToOne (Checked.word Cardinality.ofWord?) <*>
      Checked.optional as "relationship_label" none Checked.optionalText
  | _ => Checked.issue [] .modelType

/-- Reads a reference or nothing. -/
def Reference.checkOptional : Value → Checked (Option Reference)
  | .null => .good none
  | v => some <$> Reference.check v

/-- Reads a reference. -/
def Reference.read (v : Value) : Reader Reference :=
  Reader.ofChecked (Reference.check v)

/-- The record that a reference is read back from. -/
def Reference.dump (r : Reference) : Value :=
  .record
    [("target_entity_id", .text r.target.text),
     ("target_field_id", .text r.targetField.text),
     ("cardinality", .text r.cardinality.word),
     ("relationship_label", (r.label.map Value.text).getD .null)]

/-! ## Fields -/

/-- The field with a reference exactly when it is a foreign key: one that lacks it points nowhere
yet, and any other field loses it. -/
def Field.settle (f : Field) : Field :=
  { f with reference := if f.isForeign then some (f.reference.getD {}) else none }

/-- The text of a name that has been found to be one. -/
def nameOf (v : Value) : String :=
  v.nameText.toOption.getD ""

/-- Reads the attributes of a field; `fresh` is the id of a field that brings none. -/
def Field.check (fresh : Id) : Value → Checked Field
  | .record as =>
    (fun id name isPrimary isForeign description reference =>
        Field.settle
          { id := ⟨id⟩, name
            type := ((Value.find? as "type").map FieldType.ofValue).getD .string
            isPrimary, isForeign, description := cleanRemark description, reference }) <$>
      Checked.optional as "id" fresh.text Checked.text <*>
      Checked.required as "name" (fun v => .good (cleanFieldName (nameOf v))) <*>
      Checked.optional as "is_pk" false Checked.flag <*>
      Checked.optional as "is_fk" false Checked.flag <*>
      Checked.optional as "description" none Checked.optionalText <*>
      Checked.optional as "fk_reference" none Reference.checkOptional
  | _ => Checked.issue [] .modelType

/-- Reads a field. -/
def Field.read (v : Value) : Reader Field := do
  Reader.demandNames [v.get "name"]
  let fresh ← Reader.draw
  Reader.ofChecked (Field.check fresh v)

/-- The record that a field is read back from. -/
def Field.dump (f : Field) : List (String × Value) :=
  [("id", .text f.id.text),
   ("name", .text f.name),
   ("type", .text f.type.word),
   ("is_pk", .flag f.isPrimary),
   ("is_fk", .flag f.isForeign),
   ("description", (f.description.map Value.text).getD .null),
   ("fk_reference", (f.reference.map Reference.dump).getD .null)]

/-! ## Entities -/

/-- The names that a record of an entity carries, in the order in which they are read. -/
def Entity.names (v : Value) : List Value :=
  let inner :=
    match v.get "fields" with
    | .list fs => fs.map (·.get "name")
    | _ => []
  v.get "name" :: inner

/-- Reads the fields of an entity, each led to from its position. -/
def Entity.checkFields (fresh : List Id) : Value → Checked (List Field)
  | .list fs => Checked.collect 0 ((fresh.zip fs).map fun p => Field.check p.1 p.2)
  | _ => Checked.issue [] .listType

/-- Reads the attributes of an entity; the `fresh` ids are for the entity and its fields in
order. -/
def Entity.check (fresh : Id) (freshFields : List Id) : Value → Checked Entity
  | .record as =>
    (fun id name fields => { id := ⟨id⟩, name, fields }) <$>
      Checked.optional as "id" fresh.text Checked.text <*>
      Checked.required as "name" (fun v => .good (cleanEntityName (nameOf v))) <*>
      Checked.optional as "fields" [] (Entity.checkFields freshFields)
  | _ => Checked.issue [] .modelType

/-- Reads an entity with its fields. -/
def Entity.read (v : Value) : Reader Entity := do
  Reader.demandNames (Entity.names v)
  let fresh ← Reader.draw
  let freshFields ← (Entity.names v).tail.mapM fun _ => Reader.draw
  Reader.ofChecked (Entity.check fresh freshFields v)

/-- Reads entities one after the other; the first that is refused is reported. -/
def Entity.readAll (vs : List Value) : Reader (List Entity) :=
  vs.mapM Entity.read

end DiagramSync
