import DiagramSync.Proofs.Diagram.Recoverable
import DiagramSync.Proofs.Model.Sketch

/-!
# What a diagram shows of a model

A diagram speaks of entities and fields by name and never shows an id.  What is written of a legible
model is therefore made from its sketch alone, and legible models that say the same have the same
diagram.

* `FieldSketch.statement`, `FieldSketch.emission?` — what is written of a field, by its sketch
* `EntitySketch.lines`, `sketchLines` — the lines of a block and of a diagram, by the sketch
* `diagramLines_eq_sketchLines` — the lines of a legible model are those of its sketch
* **`generate_eq_of_sketch`** — legible models that say the same are written the same
-/

namespace DiagramSync

/-- The statement of a field that says this. -/
def FieldSketch.statement (f : FieldSketch) : List Char :=
  fieldStatement f.type.word.toList f.name.toList (markerChars f.isPrimary f.isForeign)
    (f.description.map String.toList)

/-- The relationship line that a field which says this gives rise to, if it points at an entity. -/
def FieldSketch.emission? (source : String) (f : FieldSketch) : Option Emission := do
  let r ← f.reference
  let (target, _) ← r.link
  return { source, target, cardinality := r.cardinality, label := r.label.getD f.name }

/-- The lines of the block of an entity that says this, and the empty one after it. -/
def EntitySketch.lines (e : EntitySketch) : List (List Char) :=
  (' ' :: ' ' :: openingStatement e.name.toList) ::
    (e.fields.map (fun f => List.replicate 4 ' ' ++ f.statement) ++ [[' ', ' ', '}'], []])

/-- The relationship lines of a model that says this, in order. -/
def sketchEmissions (es : List EntitySketch) : List Emission :=
  es.flatMap fun e => e.fields.filterMap (·.emission? e.name)

/-- The lines of the diagram of a model that says this. -/
def sketchLines (es : List EntitySketch) : List (List Char) :=
  header.toList :: (es.flatMap EntitySketch.lines
    ++ (withoutMirrors [] (sketchEmissions es)).map fun em => (relationshipLine em).toList)

section Legible

variable {es es' : List Entity}

/-- The relationship line of a field is made from what it says. -/
lemma emission?_sketch (hids : (es.map Entity.id).Nodup) {f : Field} (hf : f.IsValid)
    (source : String) : (f.sketch es).emission? source = f.emission? es source := by
  rw [emission?_eq_link? hids hf, FieldSketch.emission?, Field.sketch, Field.link?]
  cases hr : f.reference with
  | none => rfl
  | some r =>
    simp only [Reference.sketch, Option.bind_eq_bind, Option.bind_some, Option.map_some]
    cases es.find? fun t => t.id == r.target <;> rfl

/-- The relationship lines of a legible model are made from what it says. -/
lemma sketchEmissions_sketch (h : Legible es) : sketchEmissions (sketch es) = modelEmissions es := by
  rw [sketchEmissions, sketch, List.flatMap_map, modelEmissions]
  refine List.flatMap_congr fun e he => ?_
  have hfields : (e.sketch es).fields = e.fields.map (·.sketch es) := rfl
  rw [hfields, List.filterMap_map]
  refine List.filterMap_congr fun f hf => ?_
  exact emission?_sketch h.ids ((h.writable e he).fields f hf).toIsValid e.name

/-- The lines of a block are made from what its entity says. -/
lemma lines_sketch {e : Entity} (h : e.IsWritable) :
    (e.sketch es).lines = (tableLines e.shown).map String.toList := by
  have hfields : (e.sketch es).fields = e.fields.map (·.sketch es) := rfl
  rw [map_toList_tableLines h, EntitySketch.lines, hfields, List.map_map]
  rfl

/-- The lines of the diagram of a legible model are made from what the model says. -/
lemma diagramLines_eq_sketchLines (h : Legible es) :
    (diagramLines (es.map Entity.shown)).map String.toList = sketchLines (sketch es) := by
  have hblocks : (sketch es).flatMap EntitySketch.lines
      = es.flatMap fun e => (tableLines e.shown).map String.toList := by
    rw [sketch, List.flatMap_map]
    exact List.flatMap_congr fun e he => lines_sketch (h.writable e he)
  rw [diagramLines_shown h.writable, sketchLines, hblocks, sketchEmissions_sketch h]

/-- **Legible models that say the same have the same diagram.** -/
theorem generate_eq_of_sketch (h : Legible es) (h' : Legible es') (hsketch : sketch es' = sketch es) :
    generate es' = generate es := by
  have hlength : es'.length = es.length := by
    have hcount := congrArg List.length hsketch
    rwa [sketch, sketch, List.length_map, List.length_map] at hcount
  cases es with
  | nil => rw [List.length_eq_zero_iff.mp hlength]
  | cons e es =>
    have hne : es' ≠ [] := by
      rintro rfl
      exact absurd hlength (Nat.succ_ne_zero es.length).symm
    rw [← String.toList_inj, toList_generate hne h'.writable,
      toList_generate (List.cons_ne_nil e es) h.writable, diagramLines_eq_sketchLines h,
      diagramLines_eq_sketchLines h', hsketch]

end Legible

end DiagramSync
