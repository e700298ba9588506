import DiagramSync.Diagram.Generate
import Mathlib.Data.List.Basic
import Mathlib.Data.List.Find

/-!
# Writing a model whose ids and references are replaced

The diagram of a model shows neither ids nor where a reference points, other than by the name of the
table that is found there.  So ids and references may be replaced, as long as every reference finds
the same table afterwards, and says the same if it finds one.

* `Table.image` — a table under another id, with the references of its columns replaced
* `KeepsTargets` — what is asked of a replacement of references
* `targetTable?_image`, `columnEmissions_image` — the same tables are found, and the same
  relationship lines written
* **`generate_image`** — the same text is written
-/

namespace DiagramSync

/-! ## Replacing -/

/-- The column with its reference replaced. -/
def Column.mapReference (h : Reference → Reference) (c : Column) : Column :=
  { c with reference := c.reference.map h }

/-- The table under another id, with the references of its columns replaced. -/
def Table.image (g : Id → Id) (h : Reference → Reference) (t : Table) : Table :=
  { t with id := g t.id, columns := t.columns.map (·.mapReference h) }

/-- The table under its name, with id and references replaced. -/
def ShownTable.image (g : Id → Id) (h : Reference → Reference) (t : ShownTable) : ShownTable :=
  { t with table := t.table.image g h }

/-- What is asked of a replacement of the references to tables with some ids. -/
structure KeepsTargets (g : Id → Id) (h : Reference → Reference) (ids : List Id) : Prop where
  /-- Labels stay. -/
  label : ∀ r, (h r).label = r.label
  /-- A reference finds the same table. -/
  found : ∀ id ∈ ids, ∀ r, (g id == (h r).target) = (id == r.target)
  /-- The cardinality of a reference that finds a table stays. -/
  cardinality : ∀ r, r.target ∈ ids → (h r).cardinality = r.cardinality

section Replacing

variable {g : Id → Id} {h : Reference → Reference}

lemma showFrom_image (position : Nat) (ts : List Table) :
    Table.showFrom position (ts.map (·.image g h))
      = (Table.showFrom position ts).map (·.image g h) := by
  induction ts generalizing position with
  | nil => rfl
  | cons t ts ih =>
    have hname : (t.image g h).shownName position = t.shownName position := by
      rw [Table.shownName, Table.shownName, Table.image]
    rw [List.map_cons, Table.showFrom, Table.showFrom, List.map_cons, ih, hname, ShownTable.image]

lemma map_id_showFrom (position : Nat) (ts : List Table) :
    (Table.showFrom position ts).map (·.table.id) = ts.map Table.id := by
  induction ts generalizing position with
  | nil => rfl
  | cons t ts ih => rw [Table.showFrom, List.map_cons, ih, List.map_cons]

lemma columnLines_image (position : Nat) (cs : List Column) :
    columnLines position (cs.map (·.mapReference h)) = columnLines position cs := by
  induction cs generalizing position with
  | nil => rfl
  | cons c cs ih =>
    have hline : columnLine position (c.mapReference h) = columnLine position c := by
      rw [columnLine, columnLine, Column.mapReference]
      rfl
    rw [List.map_cons, columnLines, columnLines, ih, hline]

/-! ## Relationship lines -/

variable {ts : List ShownTable} (hkeep : KeepsTargets g h (ts.map (·.table.id)))
include hkeep

/-- A reference finds the same table. -/
lemma targetTable?_image (r : Reference) :
    targetTable? (ts.map (·.image g h)) (h r).target
      = (targetTable? ts r.target).map (·.image g h) := by
  rw [targetTable?, targetTable?, ← List.map_reverse, List.find?_map]
  refine congrArg (Option.map _) (List.find?_congr fun t ht => ?_)
  exact hkeep.found _ (List.mem_map_of_mem (f := (·.table.id)) (List.mem_reverse.mp ht)) r

/-- A column gives rise to the same line. -/
lemma emission?_image (source : String) (position : Nat) (c : Column) :
    (c.mapReference h).emission? (ts.map (·.image g h)) source position
      = c.emission? ts source position := by
  obtain ⟨name, typeText, isPrimary, isForeign, description, reference⟩ := c
  cases reference with
  | none => rfl
  | some r =>
    simp only [Column.emission?, Column.mapReference, Option.map_some, bind, Option.bind_some,
      targetTable?_image hkeep, hkeep.label]
    cases isForeign with
    | false => rfl
    | true =>
      cases htarget : targetTable? ts r.target with
      | none => rfl
      | some t =>
        have hid := List.find?_some htarget
        have hmem : t.table.id ∈ ts.map (·.table.id) := List.mem_map_of_mem
          (f := (·.table.id)) (List.mem_reverse.mp (List.mem_of_find?_eq_some htarget))
        rw [beq_iff_eq.mp hid] at hmem
        rw [hkeep.cardinality r hmem]
        rfl

lemma columnEmissions_image (source : String) (position : Nat) (cs : List Column) :
    columnEmissions (ts.map (·.image g h)) source position (cs.map (·.mapReference h))
      = columnEmissions ts source position cs := by
  induction cs generalizing position with
  | nil => rfl
  | cons c cs ih =>
    rw [List.map_cons, columnEmissions, columnEmissions, emission?_image hkeep, ih]

lemma emissions_image : emissions (ts.map (·.image g h)) = emissions ts := by
  have hall : allEmissions (ts.map (·.image g h)) = allEmissions ts := by
    rw [allEmissions, allEmissions, List.flatMap_map]
    exact List.flatMap_congr fun t _ => columnEmissions_image hkeep t.name 0 t.table.columns
  rw [emissions, emissions, hall]

end Replacing

/-- **The same text is written** of a model with its ids and references replaced. -/
theorem generate_image {g : Id → Id} {h : Reference → Reference} {es : List Entity}
    (hkeep : KeepsTargets g h (es.map Entity.id)) {ε : Entity → Entity}
    (hε : ∀ e, (ε e).toTable = e.toTable.image g h) : generate (es.map ε) = generate es := by
  have htables : (es.map ε).map Entity.toTable = (es.map Entity.toTable).map (·.image g h) := by
    rw [List.map_map, List.map_map]
    exact List.map_congr_left fun e _ => hε e
  have hblocks : ∀ ts : List ShownTable,
      (ts.map (·.image g h)).flatMap tableLines = ts.flatMap tableLines := by
    intro ts
    rw [List.flatMap_map]
    refine List.flatMap_congr fun t _ => ?_
    have hcolumns := columnLines_image (h := h) 0 t.table.columns
    exact congrArg (fun ls => _ :: ls ++ _) hcolumns
  have hids : (Table.showFrom 0 (es.map Entity.toTable)).map (·.table.id) = es.map Entity.id := by
    rw [map_id_showFrom, List.map_map]
    rfl
  rw [← hids] at hkeep
  rw [generate, generate, htables, generateTables, generateTables, List.isEmpty_map, showFrom_image,
    diagramLines, diagramLines, hblocks, emissions_image hkeep]

end DiagramSync
