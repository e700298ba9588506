import DiagramSync.Diagram.Symbol
import DiagramSync.Diagram.Table
import DiagramSync.Validation.Model
import DiagramSync.Value.Shown

/-!
# Tables out of loose values

A diagram can be written of things that were never checked.  Nothing is cleaned here and nothing is
refused but a name that is no text: what is absent gets its default, and what is given stays as it
is.

* `Value.written` — a loose value as it is written where a type is expected
* `Id.ofLoose`, `Column.ofLoose`, `Table.ofLoose` — an id, a column and a table as they are given
* `Table.readAll` — several tables
-/

namespace DiagramSync

/-- A loose value as it is written where a type is expected: a text says itself, and so does any
other value.  What does not count as given is written as the default type. -/
def Value.written (v : Value) : String :=
  if v.isTruthy then v.plain else FieldType.string.word

/-- An id as it is given.  One that is no text is set off from every text by a character that no id
starts with; numbers that are equal are one id. -/
def Id.ofLoose : Value → Id
  | .text s => ⟨s⟩
  | v => ⟨"\x00" ++ ((v.whole?.map toString).getD v.shown)⟩

/-- The reference in a record as it is given. -/
def Reference.ofLoose : Value → Option Reference
  | .record as =>
    let id (name : String) : Id := ((Value.find? as name).map Id.ofLoose).getD .unresolved
    some
      { target := id "target_entity_id"
        targetField := id "target_field_id"
        cardinality := ((Value.find? as "cardinality").map Cardinality.ofLoose).getD .manyToOne
        label := (Value.find? as "relationship_label").bind Value.text? }
  | _ => none

/-- The column in a record as it is given. -/
def Column.ofLoose (v : Value) : Column where
  name := nameOf (v.get "name")
  typeText := ((v.lookup? "type").map Value.written).getD FieldType.string.word
  isPrimary := (v.get "is_pk").isTruthy
  isForeign := (v.get "is_fk").isTruthy
  description := (v.get "description").text?
  reference := Reference.ofLoose (v.get "fk_reference")

/-- The items of a list; anything else has none. -/
def Value.items : Value → List Value
  | .list vs => vs
  | _ => []

/-- The table in a record as it is given, with an id of its own if it brings none. -/
def Table.ofLoose (fresh : Id) (v : Value) : Table where
  id := ((v.lookup? "id").map Id.ofLoose).getD fresh
  name := nameOf (v.get "name")
  columns := (v.get "fields").items.map Column.ofLoose

/-- The tables in some records.  The names of the tables are looked at first, then those of the
columns. -/
def Table.readAll (vs : List Value) : Reader (List Table) := do
  Reader.demandNames (vs.map (·.get "name"))
  Reader.demandNames (vs.flatMap fun v => (v.get "fields").items.map (·.get "name"))
  vs.mapM fun v => do return Table.ofLoose (← Reader.draw) v

end DiagramSync
