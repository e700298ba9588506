import DiagramSync.Diagram.Generate
import DiagramSync.Proofs.Diagram.Written
import DiagramSync.Proofs.Model.Clean
import Mathlib.Data.List.Basic

/-!
# The statements of a written diagram

Of a model whose entities and fields have names and whose texts stay on one line, every line that is
written is one statement, and the empty line after a block is none.  So the statements of the
written text are known, and reading starts from them.

* `Field.IsWritable`, `Entity.IsWritable` — valid, named, and on one line
* `Field.emission?`, `modelEmissions` — the relationship lines of a model, said without tables
* `modelStatements` — the statements of the written text
* **`statements_generate`** — they are those, in order
-/

namespace DiagramSync

open Text LineForm

/-! ## Models that can be written -/

/-- A text that stays on one line. -/
def IsLineText (s : String) : Prop :=
  IsLine s.toList

instance (s : String) : Decidable (IsLineText s) :=
  inferInstanceAs (Decidable (IsLine s.toList))

/-- A valid field that has a name and whose texts stay on one line. -/
structure Field.IsWritable (f : Field) : Prop extends Field.IsValid f where
  /-- The field has a name. -/
  named : f.name ≠ ""
  /-- The name stays on one line. -/
  nameLine : IsLineText f.name
  /-- The description stays on one line. -/
  descriptionLine : ∀ d ∈ f.description, IsLineText d
  /-- The label of the reference stays on one line. -/
  labelLine : ∀ r ∈ f.reference, ∀ l ∈ r.label, IsLineText l

instance (f : Field) : Decidable f.IsWritable :=
  decidable_of_iff
    (f.IsValid ∧ f.name ≠ "" ∧ IsLineText f.name ∧ (∀ d ∈ f.description, IsLineText d) ∧
      ∀ r ∈ f.reference, ∀ l ∈ r.label, IsLineText l)
    ⟨fun ⟨h, hnamed, hname, hdescription, hlabel⟩ => ⟨h, hnamed, hname, hdescription, hlabel⟩,
      fun h => ⟨h.toIsValid, h.named, h.nameLine, h.descriptionLine, h.labelLine⟩⟩

/-- A valid entity that has a name which stays on one line, with fields of that kind. -/
structure Entity.IsWritable (e : Entity) : Prop where
  /-- The name is clean. -/
  name : cleanEntityName e.name = e.name
  /-- The entity has a name. -/
  named : e.name ≠ ""
  /-- The name stays on one line. -/
  nameLine : IsLineText e.name
  /-- The fields can be written. -/
  fields : ∀ f ∈ e.fields, f.IsWritable

instance (e : Entity) : Decidable e.IsWritable :=
  decidable_of_iff
    (cleanEntityName e.name = e.name ∧ e.name ≠ "" ∧ IsLineText e.name ∧
      ∀ f ∈ e.fields, f.IsWritable)
    ⟨fun ⟨hclean, hnamed, hname, hfields⟩ => ⟨hclean, hnamed, hname, hfields⟩,
      fun h => ⟨h.name, h.named, h.nameLine, h.fields⟩⟩

/-- The entity as the table that is written of it under its own name. -/
def Entity.shown (e : Entity) : ShownTable :=
  ⟨e.name, e.toTable⟩

/-- An entity with a clean name is written under it, if it has one. -/
lemma shownName_toTable {e : Entity} (hclean : cleanEntityName e.name = e.name)
    (hnamed : e.name ≠ "") (position : Nat) : e.toTable.shownName position = e.name := by
  have hname : cleanEntityName e.toTable.name = e.name := hclean
  simp only [Table.shownName, hname, if_neg hnamed]

/-- A field with a clean name is written under it, if it has one. -/
lemma shownName_toColumn {f : Field} (hclean : cleanFieldName f.name = f.name)
    (hnamed : f.name ≠ "") (position : Nat) : f.toColumn.shownName position = f.name := by
  have hname : cleanFieldName f.toColumn.name = f.name := hclean
  simp only [Column.shownName, hname, if_neg hnamed]

/-- Entities that can be written are written under their own names. -/
lemma showFrom_toTable {es : List Entity} (h : ∀ e ∈ es, e.IsWritable) (position : Nat) :
    Table.showFrom position (es.map Entity.toTable) = es.map Entity.shown := by
  induction es generalizing position with
  | nil => rfl
  | cons e es ih =>
    have he := h e List.mem_cons_self
    rw [List.map_cons, Table.showFrom, ih (fun x hx => h x (List.mem_cons_of_mem e hx)),
      shownName_toTable he.name he.named]
    rfl

/-! ## Relationship lines without tables -/

/-- The relationship line that a field gives rise to, if its target is there. -/
def Field.emission? (es : List Entity) (source : String) (f : Field) : Option Emission := do
  let r ← f.reference
  if f.isForeign then
    let target ← es.reverse.find? fun t => t.id == r.target
    return { source, target := target.name, cardinality := r.cardinality, label := r.label.getD f.name }
  else
    none

/-- The relationship lines that the fields of a model give rise to, in order. -/
def modelEmissions (es : List Entity) : List Emission :=
  es.flatMap fun e => e.fields.filterMap (·.emission? es e.name)

lemma targetTable?_shown (es : List Entity) (id : Id) :
    targetTable? (es.map Entity.shown) id
      = (es.reverse.find? fun t => t.id == id).map Entity.shown := by
  rw [targetTable?, ← List.map_reverse, List.find?_map]
  rfl

lemma emission?_toColumn {f : Field} (h : f.IsWritable) (es : List Entity) (source : String)
    (position : Nat) :
    f.toColumn.emission? (es.map Entity.shown) source position = f.emission? es source := by
  have hcol : f.toColumn.reference = f.reference := rfl
  have hforeign : f.toColumn.isForeign = f.isForeign := rfl
  rw [Column.emission?, Field.emission?, hcol, hforeign]
  cases hr : f.reference with
  | none => rfl
  | some r =>
    simp only [Option.bind_eq_bind, Option.bind_some, targetTable?_shown, h.label r hr,
      shownName_toColumn h.name h.named, Option.bind_map]
    rfl

lemma columnEmissions_toColumn {fs : List Field} (h : ∀ f ∈ fs, f.IsWritable) (es : List Entity)
    (source : String) (position : Nat) :
    columnEmissions (es.map Entity.shown) source position (fs.map Field.toColumn)
      = fs.filterMap (·.emission? es source) := by
  induction fs generalizing position with
  | nil => rfl
  | cons f fs ih =>
    rw [List.map_cons, columnEmissions, emission?_toColumn (h f List.mem_cons_self),
      ih (fun x hx => h x (List.mem_cons_of_mem f hx)), List.filterMap_cons]
    cases f.emission? es source <;> rfl

/-- The relationship lines of the tables are those of the model. -/
lemma allEmissions_shown {es : List Entity} (h : ∀ e ∈ es, e.IsWritable) :
    allEmissions (es.map Entity.shown) = modelEmissions es := by
  rw [allEmissions, modelEmissions, List.flatMap_map]
  refine List.flatMap_congr fun e he => ?_
  exact columnEmissions_toColumn (h e he).fields es e.name 0

/-- A line that is kept was there before. -/
lemma mem_withoutMirrors {e : Emission} {kept es : List Emission}
    (h : e ∈ withoutMirrors kept es) : e ∈ kept ∨ e ∈ es := by
  induction es generalizing kept with
  | nil => exact Or.inl h
  | cons x es ih =>
    rw [withoutMirrors] at h
    split_ifs at h with hx
    · exact (ih h).imp_right (List.mem_cons_of_mem x)
    · rcases ih h with h | h
      · rcases List.mem_append.mp h with h | h
        · exact Or.inl h
        · exact Or.inr (List.mem_singleton.mp h ▸ List.mem_cons_self)
      · exact Or.inr (List.mem_cons_of_mem x h)

/-- A relationship line of a model joins two of its entities, and its label is that of a reference
or the name of its field. -/
lemma mem_modelEmissions {es : List Entity} {em : Emission} (h : em ∈ modelEmissions es) :
    ∃ e ∈ es, ∃ f ∈ e.fields, ∃ r, f.reference = some r ∧ ∃ t ∈ es, t.id = r.target ∧
      em = ⟨e.name, t.name, r.cardinality, r.label.getD f.name⟩ := by
  obtain ⟨e, he, hem⟩ := List.mem_flatMap.mp h
  obtain ⟨f, hf, hem⟩ := List.mem_filterMap.mp hem
  rw [Field.emission?] at hem
  cases hr : f.reference with
  | none => simp [hr] at hem
  | some r =>
    simp only [hr, Option.bind_eq_bind, Option.bind_some, Option.ite_none_right_eq_some,
      Option.bind_eq_some_iff] at hem
    obtain ⟨-, t, ht, hem⟩ := hem
    refine ⟨e, he, f, hf, r, hr, t, List.mem_reverse.mp (List.mem_of_find?_eq_some ht),
      by simpa using List.find?_some ht, ?_⟩
    exact (Option.some.inj hem).symm

/-! ## Statements -/

/-- The statement of a field. -/
def Field.statement (f : Field) : List Char :=
  fieldStatement f.type.word.toList f.name.toList (markerChars f.isPrimary f.isForeign)
    (f.description.map String.toList)

/-- The statement of a relationship line. -/
def Emission.statement (e : Emission) : List Char :=
  relationshipStatement e.source.toList e.cardinality.symbol.toList e.target.toList e.label.toList

/-- The statements of a block. -/
def Entity.statements (e : Entity) : List (List Char) :=
  openingStatement e.name.toList :: (e.fields.map Field.statement ++ [['}']])

/-- The statements of a written model, the header first. -/
def modelStatements (es : List Entity) : List (List Char) :=
  header.toList ::
    (es.flatMap Entity.statements ++ (withoutMirrors [] (modelEmissions es)).map Emission.statement)

/-! ## From lines to statements -/

/-- The statement that a line holds, if it says something. -/
def lineStatement? (l : List Char) : Option (List Char) :=
  if (trim l).isEmpty || isComment (trim l) then none else some (trim l)

lemma map_snd_numberedStatements (n : Nat) (ls : List (List Char)) :
    (numberedStatements n ls).map Prod.snd = ls.filterMap lineStatement? := by
  induction ls generalizing n with
  | nil => rfl
  | cons l ls ih =>
    rw [numberedStatements, List.filterMap_cons, lineStatement?]
    split_ifs with h
    · exact ih (n + 1)
    · rw [List.map_cons, ih]

/-- The statements of a joined text are those of the lines that were joined. -/
lemma statements_intercalate {ls : List (List Char)} (h : ∀ l ∈ ls, IsLine l) :
    (statements (['\n'].intercalate ls)).map Prod.snd = ls.filterMap lineStatement? := by
  rw [statements, map_snd_numberedStatements, lines_intercalate h]
  split_ifs with hlast
  · obtain ⟨init, rfl⟩ := List.getLast?_eq_some_iff.mp hlast
    rw [List.dropLast_concat, List.filterMap_append]
    exact (List.append_nil _).symm
  · rfl

/-- An indented line that starts and ends with something, and not like a comment, is a statement. -/
lemma lineStatement?_indented (n : Nat) {c : Char} {cs : List Char} (hblank : isBlank c = false)
    (hpercent : c ≠ '%') (hdash : c ≠ '-')
    (hlast : ∀ d ∈ (c :: cs).getLast?, isBlank d = false) :
    lineStatement? (List.replicate n ' ' ++ c :: cs) = some (c :: cs) := by
  have htrim : trim (List.replicate n ' ' ++ c :: cs) = c :: cs := by
    induction n with
    | zero => exact trim_eq_self (fun d hd => Option.some.inj hd ▸ hblank) hlast
    | succ n ih => rw [List.replicate_succ, List.cons_append, trim_cons_blank _ (by decide), ih]
  have hcomment : isComment (c :: cs) = false := by
    simp [isComment, commentMarkers, List.isPrefixOf, hpercent.symm, hdash.symm]
  rw [lineStatement?, htrim, hcomment]
  rfl

lemma lineStatement?_opening (name : List Char) :
    lineStatement? (' ' :: ' ' :: openingStatement name) = some (openingStatement name) := by
  refine lineStatement?_indented 2 (by decide) (by decide) (by decide) fun d hd => ?_
  simp [List.getLast?_cons, List.getLast?_append] at hd
  obtain rfl := hd
  decide

lemma lineStatement?_relationship (source symbol target label : List Char) :
    lineStatement? (' ' :: ' ' :: relationshipStatement source symbol target label)
      = some (relationshipStatement source symbol target label) := by
  refine lineStatement?_indented 2 (by decide) (by decide) (by decide) fun d hd => ?_
  simp [List.getLast?_cons, List.getLast?_append] at hd
  obtain rfl := hd
  decide

/-- The statement of a field has no blank at its end. -/
lemma getLast?_fieldStatement {name : List Char} (hne : name ≠ [])
    (hname : ∀ c ∈ name, isBlank c = false) (type : List Char) (primary foreign : Bool)
    (remark : Option (List Char)) :
    ∀ d ∈ (fieldStatement type name (markerChars primary foreign) remark).getLast?,
      isBlank d = false := by
  intro d hd
  cases remark with
  | some r =>
    simp [fieldStatement, remarkSuffix, List.getLast?_append, List.getLast?_cons] at hd
    obtain rfl := hd
    decide
  | none =>
    cases primary <;> cases foreign
    · simp only [fieldStatement, remarkSuffix, markerChars, Bool.false_eq_true, if_false,
        List.append_nil, List.getLast?_append, List.getLast?_cons] at hd
      obtain ⟨e, he⟩ := List.getLast?_isSome.mpr hne |> Option.isSome_iff_exists.mp
      simp [he] at hd
      exact hname d (hd ▸ List.mem_of_getLast? he)
    all_goals
      simp [fieldStatement, remarkSuffix, markerChars, List.getLast?_append,
        List.getLast?_cons] at hd
      obtain rfl := hd
      decide

lemma lineStatement?_field {name : List Char} (hne : name ≠ [])
    (hname : ∀ c ∈ name, isBlank c = false) (t : FieldType) (primary foreign : Bool)
    (remark : Option (List Char)) :
    lineStatement? (List.replicate 4 ' '
        ++ fieldStatement t.word.toList name (markerChars primary foreign) remark)
      = some (fieldStatement t.word.toList name (markerChars primary foreign) remark) := by
  have hlast := getLast?_fieldStatement hne hname t.word.toList primary foreign remark
  obtain ⟨htoken, c, cs, ht, hlead⟩ := word_chars t
  have hblank : isBlank c = false := htoken.blank c (ht ▸ List.mem_cons_self)
  rw [fieldStatement, ht, List.cons_append] at hlast ⊢
  refine lineStatement?_indented 4 hblank ?_ ?_ hlast
  · rintro rfl
    exact absurd hlead (by decide)
  · rintro rfl
    exact absurd hlead (by decide)

/-! ## The written lines -/

lemma toList_opening (name : String) :
    ("  \"" ++ name ++ "\" \x7b").toList = ' ' :: ' ' :: openingStatement name.toList := by
  rw [String.toList_append, String.toList_append]
  rfl

lemma toList_relationshipLine (e : Emission) :
    (relationshipLine e).toList = ' ' :: ' ' :: e.statement := by
  simp only [relationshipLine, String.toList_append]
  simp [Emission.statement, relationshipStatement]

lemma toList_columnLine {f : Field} (h : f.IsWritable) (position : Nat) :
    (columnLine position f.toColumn).toList = List.replicate 4 ' ' ++ f.statement := by
  have hmarker : f.toColumn.marker.toList = markerChars f.isPrimary f.isForeign := by
    change (if f.isPrimary then " PK" else if f.isForeign then " FK" else "").toList = _
    cases f.isPrimary <;> cases f.isForeign <;> rfl
  have hdescription : cleanRemark f.toColumn.description = f.description := h.description
  have htype : f.toColumn.typeText = f.type.word := rfl
  rw [columnLine, hdescription, htype, shownName_toColumn h.name h.named]
  cases hd : f.description with
  | none => simp [hmarker, Field.statement, fieldStatement, remarkSuffix, hd]
  | some d => simp [hmarker, Field.statement, fieldStatement, remarkSuffix, hd]

/-! ### They stay on one line -/

lemma isLine_opening {name : List Char} (h : IsLine name) :
    IsLine (' ' :: ' ' :: openingStatement name) := by
  simp only [openingStatement, isLine_cons, isLine_append, isLine_nil, h]
  decide

lemma isLine_relationship {e : Emission} (hs : IsLineText e.source) (ht : IsLineText e.target)
    (hl : IsLineText e.label) : IsLine (' ' :: ' ' :: e.statement) := by
  have hsymbol : IsLine e.cardinality.symbol.toList := by
    cases e.cardinality <;> decide
  rw [IsLineText] at hs ht hl
  simp only [Emission.statement, relationshipStatement, isLine_cons, isLine_append, isLine_nil, hs,
    ht, hl, hsymbol]
  decide

lemma isLine_field {f : Field} (h : f.IsWritable) :
    IsLine (List.replicate 4 ' ' ++ f.statement) := by
  have htype : IsLine f.type.word.toList := by
    cases f.type <;> decide
  have hmarker : IsLine (markerChars f.isPrimary f.isForeign) := by
    cases f.isPrimary <;> cases f.isForeign <;> decide
  have hremark : IsLine (remarkSuffix (f.description.map String.toList)) := by
    cases hd : f.description with
    | none => exact isLine_nil
    | some d =>
      have hline : IsLine d.toList := h.descriptionLine d hd
      simp only [Option.map_some, remarkSuffix, isLine_cons, isLine_append, isLine_nil, hline]
      decide
  have hname : IsLine f.name.toList := h.nameLine
  have hindent : IsLine (List.replicate 4 ' ') := by decide
  simp only [Field.statement, fieldStatement, isLine_cons, isLine_append, htype, hmarker, hremark,
    hname, hindent]
  decide

/-! ### All of them -/

/-- The characters of the lines of a block. -/
lemma map_toList_tableLines {e : Entity} (h : e.IsWritable) :
    (tableLines e.shown).map String.toList
      = (' ' :: ' ' :: openingStatement e.name.toList) ::
        (e.fields.map (fun f => List.replicate 4 ' ' ++ f.statement) ++ [[' ', ' ', '}'], []]) := by
  have hcolumns : ∀ (fs : List Field) (position : Nat), (∀ f ∈ fs, f.IsWritable) →
      (columnLines position (fs.map Field.toColumn)).map String.toList
        = fs.map (fun f => List.replicate 4 ' ' ++ f.statement) := by
    intro fs
    induction fs with
    | nil => intro _ _; rfl
    | cons f fs ih =>
      intro position hfs
      rw [List.map_cons, columnLines, List.map_cons, toList_columnLine (hfs f List.mem_cons_self),
        ih (position + 1) (fun x hx => hfs x (List.mem_cons_of_mem f hx)), List.map_cons]
  have hfields : e.shown.table.columns = e.fields.map Field.toColumn := rfl
  rw [tableLines, List.map_append, List.map_cons, toList_opening, hfields,
    hcolumns e.fields 0 h.fields]
  rfl

/-- The lines of a block hold its statements, and each of them is one line. -/
lemma statements_tableLines {e : Entity} (h : e.IsWritable) :
    (∀ l ∈ (tableLines e.shown).map String.toList, IsLine l) ∧
      ((tableLines e.shown).map String.toList).filterMap lineStatement? = e.statements := by
  have hfields : (e.fields.map fun f => List.replicate 4 ' ' ++ f.statement).filterMap
      lineStatement? = e.fields.map Field.statement := by
    rw [List.filterMap_map, ← List.filterMap_eq_map]
    refine List.filterMap_congr fun f hf => ?_
    have hf := h.fields f hf
    exact lineStatement?_field (fun hn => hf.named (String.toList_eq_nil_iff.mp hn))
      (fun c hc => (fieldName_char hf.name hc).1) f.type f.isPrimary f.isForeign _
  rw [map_toList_tableLines h]
  constructor
  · intro l hl
    simp only [List.mem_cons, List.mem_append, List.mem_map, List.not_mem_nil, or_false] at hl
    rcases hl with rfl | ⟨f, hf, rfl⟩ | rfl | rfl
    · exact isLine_opening h.nameLine
    · exact isLine_field (h.fields f hf)
    · decide
    · exact isLine_nil
  · rw [List.filterMap_cons, lineStatement?_opening, List.filterMap_append, hfields]
    rfl

/-- The statements of a relationship line that is written for a model. -/
lemma statements_relationshipLine {es : List Entity} (h : ∀ e ∈ es, e.IsWritable) {em : Emission}
    (hem : em ∈ withoutMirrors [] (modelEmissions es)) :
    IsLine (relationshipLine em).toList ∧
      lineStatement? (relationshipLine em).toList = some em.statement := by
  have hmem : em ∈ modelEmissions es := (mem_withoutMirrors hem).resolve_left List.not_mem_nil
  obtain ⟨e, he, f, hf, r, hr, t, ht, -, rfl⟩ := mem_modelEmissions hmem
  have hf := (h e he).fields f hf
  rw [toList_relationshipLine]
  refine ⟨isLine_relationship (h e he).nameLine (h t ht).nameLine ?_,
    lineStatement?_relationship _ _ _ _⟩
  cases hl : r.label with
  | none => exact hf.nameLine
  | some l => exact hf.labelLine r hr l hl

/-- The lines of a diagram are the header, those of the blocks, and those of the relationships. -/
lemma diagramLines_shown {es : List Entity} (h : ∀ e ∈ es, e.IsWritable) :
    (diagramLines (es.map Entity.shown)).map String.toList
      = header.toList :: (es.flatMap (fun e => (tableLines e.shown).map String.toList)
        ++ (withoutMirrors [] (modelEmissions es)).map fun em => (relationshipLine em).toList) := by
  rw [diagramLines, emissions, allEmissions_shown h, List.flatMap_map, List.map_cons,
    List.map_append, List.map_flatMap, List.map_map]
  rfl

/-- None of these lines is broken. -/
lemma isLine_diagramLines {es : List Entity} (h : ∀ e ∈ es, e.IsWritable) :
    ∀ l ∈ (diagramLines (es.map Entity.shown)).map String.toList, IsLine l := by
  intro l hl
  rw [diagramLines_shown h] at hl
  rcases List.mem_cons.mp hl with rfl | hl
  · decide
  · rcases List.mem_append.mp hl with hl | hl
    · obtain ⟨e, he, hl⟩ := List.mem_flatMap.mp hl
      exact (statements_tableLines (h e he)).1 l hl
    · obtain ⟨em, hem, rfl⟩ := List.mem_map.mp hl
      exact (statements_relationshipLine h hem).1

lemma toList_generate {es : List Entity} (hne : es ≠ []) (h : ∀ e ∈ es, e.IsWritable) :
    (generate es).toList
      = ['\n'].intercalate ((diagramLines (es.map Entity.shown)).map String.toList) := by
  have hempty : (es.map Entity.toTable).isEmpty = false := by
    simpa using hne
  have hnewline : "\n".toList = ['\n'] := rfl
  rw [generate, generateTables, hempty, showFrom_toTable h, if_neg Bool.false_ne_true,
    String.toList_intercalate, hnewline]

/-- **The statements of a written diagram** are the header, those of the blocks, and those of the
relationships. -/
theorem statements_generate {es : List Entity} (hne : es ≠ []) (h : ∀ e ∈ es, e.IsWritable) :
    (statements (generate es).toList).map Prod.snd = modelStatements es := by
  have hblocks : es.flatMap (fun e => ((tableLines e.shown).map String.toList).filterMap
      lineStatement?) = es.flatMap Entity.statements :=
    List.flatMap_congr fun e he => (statements_tableLines (h e he)).2
  have hrelationships : ((withoutMirrors [] (modelEmissions es)).map
      fun em => (relationshipLine em).toList).filterMap lineStatement?
        = (withoutMirrors [] (modelEmissions es)).map Emission.statement := by
    rw [List.filterMap_map, ← List.filterMap_eq_map]
    refine List.filterMap_congr fun em hem => ?_
    rw [Function.comp_apply, (statements_relationshipLine h hem).2, Function.comp_apply]
  have hheader : lineStatement? header.toList = some header.toList := by decide
  rw [toList_generate hne h, statements_intercalate (isLine_diagramLines h), diagramLines_shown h,
    List.filterMap_cons, hheader, List.filterMap_append, List.filterMap_flatMap, hblocks,
    hrelationships, modelStatements]

end DiagramSync
