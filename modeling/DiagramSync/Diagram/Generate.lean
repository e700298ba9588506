import DiagramSync.Diagram.Scan
import DiagramSync.Diagram.Symbol
import DiagramSync.Diagram.Table

/-!
# Writing a diagram

A diagram is written as the header, a block for every table, and a line for every relationship.  The
same tables always give the same text.

* `Emission` — a relationship line about to be written
* `Emission.mirrors` — the same relationship stated from the other end
* `emissions` — the relationship lines of some tables
* `columnLine`, `tableLines`, `relationshipLine` — the lines as texts
* `generate`, `generateTables` — the text of a diagram
-/

namespace DiagramSync

/-! ## Relationships -/

/-- A relationship line about to be written. -/
structure Emission where
  /-- The name of the table that owns the foreign key. -/
  source : String
  /-- The name of the table that is pointed at. -/
  target : String
  /-- How many rows stand at either end. -/
  cardinality : Cardinality
  /-- What the line says. -/
  label : String
  deriving Repr, DecidableEq

/-- Whether the earlier line joins the same two tables, which are different, by the same symbol the
other way round. -/
def Emission.mirrors (earlier later : Emission) : Bool :=
  later.source != later.target && earlier.source == later.target &&
    earlier.target == later.source && earlier.cardinality == later.cardinality

/-- The table with that id; of several the last one counts. -/
def targetTable? (tables : List ShownTable) (id : Id) : Option ShownTable :=
  tables.reverse.find? fun t => t.table.id == id

/-- The line that a foreign key gives rise to, if its target is there. -/
def Column.emission? (tables : List ShownTable) (source : String) (position : Nat) (c : Column) :
    Option Emission := do
  let reference ← c.reference
  if c.isForeign then
    let target ← targetTable? tables reference.target
    return {
      source, target := target.name, cardinality := reference.cardinality
      label := (cleanRemark reference.label).getD (c.shownName position) }
  else
    none

/-- The lines that the columns from the given position on give rise to. -/
def columnEmissions (tables : List ShownTable) (source : String) (position : Nat) :
    List Column → List Emission
  | [] => []
  | c :: cs =>
    (c.emission? tables source position).toList ++
      columnEmissions tables source (position + 1) cs

/-- The lines that all foreign keys give rise to, in order. -/
def allEmissions (tables : List ShownTable) : List Emission :=
  tables.flatMap fun t => columnEmissions tables t.name 0 t.table.columns

/-- Leaves out each line that mirrors one that is kept before it. -/
def withoutMirrors (kept : List Emission) : List Emission → List Emission
  | [] => kept
  | e :: es =>
    if kept.any (·.mirrors e) then withoutMirrors kept es else withoutMirrors (kept ++ [e]) es

/-- The relationship lines that are written for some tables. -/
def emissions (tables : List ShownTable) : List Emission :=
  withoutMirrors [] (allEmissions tables)

/-! ## Lines -/

/-- The marker of a column; a primary key shows that it is one, and not that it is a foreign key. -/
def Column.marker (c : Column) : String :=
  if c.isPrimary then " PK" else if c.isForeign then " FK" else ""

/-- The line of the column at that position. -/
def columnLine (position : Nat) (c : Column) : String :=
  let remark :=
    match cleanRemark c.description with
    | some text => " \"" ++ text ++ "\""
    | none => ""
  "    " ++ c.typeText ++ " " ++ c.shownName position ++ c.marker ++ remark

/-- The lines of the columns from the given position on. -/
def columnLines (position : Nat) : List Column → List String
  | [] => []
  | c :: cs => columnLine position c :: columnLines (position + 1) cs

/-- The lines of a block, and an empty one after it. -/
def tableLines (t : ShownTable) : List String :=
  ("  \"" ++ t.name ++ "\" \x7b") :: columnLines 0 t.table.columns ++ ["  \x7d", ""]

/-- The line of a relationship. -/
def relationshipLine (e : Emission) : String :=
  "  \"" ++ e.source ++ "\" " ++ e.cardinality.symbol ++ " \"" ++ e.target ++ "\" : \"" ++
    e.label ++ "\""

/-- The lines of a diagram that has some tables. -/
def diagramLines (tables : List ShownTable) : List String :=
  header :: (tables.flatMap tableLines ++ (emissions tables).map relationshipLine)

/-! ## Texts -/

/-- The diagram of some tables; without tables it is the bare header. -/
def generateTables (tables : List Table) : String :=
  if tables.isEmpty then header else "\n".intercalate (diagramLines (Table.showFrom 0 tables))

/-- The diagram of some entities. -/
def generate (entities : List Entity) : String :=
  generateTables (entities.map Entity.toTable)

end DiagramSync
