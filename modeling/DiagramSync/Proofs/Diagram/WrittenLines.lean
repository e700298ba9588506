import DiagramSync.Diagram.Parse
import DiagramSync.Proofs.Diagram.Statements
import DiagramSync.Proofs.Model.Ids

/-!
# Where the lines of a written diagram end

A diagram is written line by line, and it is read by the lines of its text.  The two agree as long
as no text in a line ends that line.  The names of fields never do, for they hold no blanks.  The
names of entities, descriptions and labels are only guarded against the carriage return and the line
feed, and each of the other characters that end a line breaks the line that it is written into.

* `composedLines` — the lines that are written for some entities
* `KeepsLines` — no name, description or label of a model ends a line
* `isLine_diagramLines_iff` — whether a line is broken is told by the texts in it
* **`lines_generate_iff`** — the text has the lines that were written exactly if these texts are on
  one line
* `lines_generate_splitUsers` — a description that ends its block and opens another one
-/

namespace DiagramSync

open Text

/-! ## Lines that were meant -/

/-- The lines that are written for some entities, but for an empty one at the end. -/
def composedLines (es : List Entity) : List (List Char) :=
  let ls := (diagramLines (Table.showFrom 0 (es.map Entity.toTable))).map String.toList
  if ls.getLast? = some [] then ls.dropLast else ls

/-- No name, description or label that is written for some entities ends a line. -/
structure KeepsLines (es : List Entity) : Prop where
  /-- The names of the entities stay on one line. -/
  names : ∀ e ∈ es, IsLineText e.name
  /-- The descriptions of the fields stay on one line. -/
  descriptions : ∀ e ∈ es, ∀ f ∈ e.fields, ∀ d ∈ f.description, IsLineText d
  /-- The labels that are written stay on one line. -/
  labels : ∀ em ∈ emissions (Table.showFrom 0 (es.map Entity.toTable)), IsLineText em.label

/-! ## Texts in a line -/

lemma isLineText_append {s t : String} :
    IsLineText (s ++ t) ↔ IsLineText s ∧ IsLineText t := by
  rw [IsLineText, String.toList_append, isLine_append]
  rfl

/-- A number is written on one line. -/
lemma isLineText_repr (n : Nat) : IsLineText (toString n) := by
  intro c hc
  rw [Nat.toString_eq_ofList_toDigits, String.toList_ofList] at hc
  have hdigit := Nat.isDigit_of_mem_toDigits (by decide) (by decide) hc
  simp only [Char.isDigit, Bool.and_eq_true, decide_eq_true_eq, UInt32.le_iff_toNat_le] at hdigit
  have hrange : 48 ≤ c.toNat ∧ c.toNat ≤ 57 := hdigit
  simp only [isLineBreak, Bool.or_eq_false_iff, Bool.and_eq_false_iff, decide_eq_false_iff_not,
    beq_eq_false_iff_ne]
  omega

/-- The name under which an entity is written ends a line only if its own name does. -/
lemma isLineText_shownName_toTable {e : Entity} (h : cleanEntityName e.name = e.name)
    (position : Nat) : IsLineText (e.toTable.shownName position) ↔ IsLineText e.name := by
  have hname : cleanEntityName e.toTable.name = e.name := h
  simp only [Table.shownName, hname]
  split_ifs with hempty
  · rw [hempty]
    refine iff_of_true ?_ (by decide)
    exact isLineText_append.mpr ⟨by decide, isLineText_repr _⟩
  · rfl

/-- The name under which a field is written stays on one line. -/
lemma isLineText_shownName_column (c : Column) (position : Nat) :
    IsLineText (c.shownName position) := by
  simp only [Column.shownName]
  split_ifs with hempty
  · exact isLineText_append.mpr ⟨by decide, isLineText_repr _⟩
  · rw [IsLineText, cleanFieldName, String.toList_ofList]
    exact isLine_fieldNameChars c.name.toList

lemma isLineText_marker (c : Column) : IsLineText c.marker := by
  rw [Column.marker]
  split_ifs
  · decide
  · decide
  · decide

/-- The line of a field is broken only by the description. -/
lemma isLineText_columnLine {f : Field} (h : f.IsValid) (position : Nat) :
    IsLineText (columnLine position f.toColumn) ↔ ∀ d ∈ f.description, IsLineText d := by
  have hdescription : cleanRemark f.toColumn.description = f.description := h.description
  have htype : IsLineText f.toColumn.typeText := by
    have hword : ∀ t : FieldType, IsLineText t.word := by
      intro t
      cases t <;> decide
    exact hword f.type
  have hrest : IsLineText ("    " ++ f.toColumn.typeText ++ " " ++ f.toColumn.shownName position
      ++ f.toColumn.marker) := by
    simp only [isLineText_append]
    exact ⟨⟨⟨⟨by decide, htype⟩, by decide⟩, isLineText_shownName_column _ _⟩, isLineText_marker _⟩
  rw [columnLine, hdescription, isLineText_append, and_iff_right hrest]
  cases hd : f.description with
  | none => exact iff_of_true (by decide) fun d hd => absurd hd (Option.not_mem_none d)
  | some d =>
    have hquote : IsLineText "\"" := by decide
    have hopen : IsLineText " \"" := by decide
    simp only [isLineText_append, hquote, hopen, true_and, and_true, Option.mem_def,
      Option.some.injEq, forall_eq']

lemma isLineText_columnLines {fs : List Field} (h : ∀ f ∈ fs, f.IsValid) (position : Nat) :
    (∀ l ∈ columnLines position (fs.map Field.toColumn), IsLineText l) ↔
      ∀ f ∈ fs, ∀ d ∈ f.description, IsLineText d := by
  induction fs generalizing position with
  | nil => exact iff_of_true (fun l hl => absurd hl List.not_mem_nil) fun f hf =>
      absurd hf List.not_mem_nil
  | cons f fs ih =>
    rw [List.map_cons, columnLines, List.forall_mem_cons, List.forall_mem_cons,
      isLineText_columnLine (h f List.mem_cons_self),
      ih fun x hx => h x (List.mem_cons_of_mem f hx)]

/-- The lines of a block are broken only by the name of the entity and by the descriptions. -/
lemma isLineText_tableLines {e : Entity} (h : e.IsValid) (position : Nat) :
    (∀ l ∈ tableLines ⟨e.toTable.shownName position, e.toTable⟩, IsLineText l) ↔
      IsLineText e.name ∧ ∀ f ∈ e.fields, ∀ d ∈ f.description, IsLineText d := by
  have hopening : IsLineText ("  \"" ++ e.toTable.shownName position ++ "\" \x7b")
      ↔ IsLineText e.name := by
    have hindent : IsLineText "  \"" := by decide
    have hbrace : IsLineText "\" \x7b" := by decide
    simp only [isLineText_append, hindent, hbrace, true_and, and_true]
    exact isLineText_shownName_toTable h.name position
  have hcolumns : e.toTable.columns = e.fields.map Field.toColumn := rfl
  have hclosing : ∀ l ∈ ["  \x7d", ""], IsLineText l := by decide
  rw [tableLines, hcolumns, List.cons_append, List.forall_mem_cons, List.forall_mem_append,
    hopening, isLineText_columnLines h.fields, and_iff_left hclosing]

/-! ## All the lines -/

lemma isLineText_showFrom {es : List Entity} (h : ∀ e ∈ es, e.IsValid) (position : Nat) :
    (∀ l ∈ (Table.showFrom position (es.map Entity.toTable)).flatMap tableLines, IsLineText l) ↔
      ∀ e ∈ es, IsLineText e.name ∧ ∀ f ∈ e.fields, ∀ d ∈ f.description, IsLineText d := by
  induction es generalizing position with
  | nil => exact iff_of_true (fun l hl => absurd hl List.not_mem_nil) fun e he =>
      absurd he List.not_mem_nil
  | cons e es ih =>
    rw [List.map_cons, Table.showFrom, List.flatMap_cons, List.forall_mem_append,
      List.forall_mem_cons, isLineText_tableLines (h e List.mem_cons_self),
      ih fun x hx => h x (List.mem_cons_of_mem e hx)]

/-- The tables of a relationship line are among those that are written. -/
lemma mem_emissions {tables : List ShownTable} {em : Emission} (h : em ∈ emissions tables) :
    (∃ t ∈ tables, em.source = t.name) ∧ ∃ t ∈ tables, em.target = t.name := by
  have hcolumns : ∀ (source : String) (cs : List Column) (position : Nat),
      em ∈ columnEmissions tables source position cs →
        em.source = source ∧ ∃ t ∈ tables, em.target = t.name := by
    intro source cs
    induction cs with
    | nil => exact fun _ h => absurd h List.not_mem_nil
    | cons c cs ih =>
      intro position h
      rcases List.mem_append.mp h with h | h
      · rw [Option.mem_toList, Column.emission?] at h
        simp only [Option.bind_eq_bind, Option.bind_eq_some_iff, Option.ite_none_right_eq_some] at h
        obtain ⟨r, -, -, t, ht, h⟩ := h
        obtain rfl := Option.some.inj h
        exact ⟨rfl, t, List.mem_reverse.mp (List.mem_of_find?_eq_some ht), rfl⟩
      · exact ih (position + 1) h
  obtain ⟨t, ht, hem⟩ := List.mem_flatMap.mp ((mem_withoutMirrors h).resolve_left List.not_mem_nil)
  obtain ⟨hsource, htarget⟩ := hcolumns t.name t.table.columns 0 hem
  exact ⟨⟨t, ht, hsource⟩, htarget⟩

/-- A table is written under the name that it shows at its position. -/
lemma mem_showFrom {es : List Entity} {position : Nat} {t : ShownTable}
    (h : t ∈ Table.showFrom position (es.map Entity.toTable)) :
    ∃ e ∈ es, ∃ n, t.name = e.toTable.shownName n := by
  induction es generalizing position with
  | nil => exact absurd h List.not_mem_nil
  | cons e es ih =>
    rw [List.map_cons, Table.showFrom] at h
    rcases List.mem_cons.mp h with rfl | h
    · exact ⟨e, List.mem_cons_self, position, by dsimp only⟩
    · obtain ⟨x, hx, hn⟩ := ih h
      exact ⟨x, List.mem_cons_of_mem e hx, hn⟩

/-- The line of a relationship between entities whose names stay on one line is broken only by its
label. -/
lemma isLineText_relationshipLine {es : List Entity} (h : ∀ e ∈ es, e.IsValid)
    (hnames : ∀ e ∈ es, IsLineText e.name) {em : Emission}
    (hem : em ∈ emissions (Table.showFrom 0 (es.map Entity.toTable))) :
    IsLineText (relationshipLine em) ↔ IsLineText em.label := by
  have htables : ∀ t ∈ Table.showFrom 0 (es.map Entity.toTable), IsLineText t.name := by
    intro t ht
    obtain ⟨e, he, n, hname⟩ := mem_showFrom ht
    rw [hname, isLineText_shownName_toTable (h e he).name]
    exact hnames e he
  obtain ⟨⟨s, hs, hsource⟩, t, ht, htarget⟩ := mem_emissions hem
  have hsource : IsLineText em.source := by
    rw [hsource]
    exact htables s hs
  have htarget : IsLineText em.target := by
    rw [htarget]
    exact htables t ht
  have hsymbol : IsLineText em.cardinality.symbol := by
    cases em.cardinality <;> decide
  have hindent : IsLineText "  \"" := by decide
  have hafter : IsLineText "\" " := by decide
  have hbefore : IsLineText " \"" := by decide
  have hcolon : IsLineText "\" : \"" := by decide
  have hquote : IsLineText "\"" := by decide
  simp only [relationshipLine, isLineText_append, hsource, htarget, hsymbol, hindent, hafter,
    hbefore, hcolon, hquote, true_and, and_true]

/-- Whether a line of a diagram is broken is told by the texts that are written into it. -/
lemma isLine_diagramLines_iff {es : List Entity} (h : ∀ e ∈ es, e.IsValid) :
    (∀ l ∈ diagramLines (Table.showFrom 0 (es.map Entity.toTable)), IsLineText l)
      ↔ KeepsLines es := by
  have hheader : IsLineText header := by decide
  rw [diagramLines, List.forall_mem_cons, and_iff_right hheader, List.forall_mem_append,
    isLineText_showFrom h, List.forall_mem_map]
  constructor
  · rintro ⟨hblocks, hlines⟩
    have hnames : ∀ e ∈ es, IsLineText e.name := fun e he => (hblocks e he).1
    exact ⟨hnames, fun e he => (hblocks e he).2,
      fun em hem => (isLineText_relationshipLine h hnames hem).mp (hlines em hem)⟩
  · intro hkeeps
    exact ⟨fun e he => ⟨hkeeps.names e he, hkeeps.descriptions e he⟩,
      fun em hem => (isLineText_relationshipLine h hkeeps.names hem).mpr (hkeeps.labels em hem)⟩

/-- **The text of a valid model has the lines that were written exactly if no name, description or
label ends a line.**  If so, what is read are the statements of the lines that were written. -/
theorem lines_generate_iff {es : List Entity} (hne : es ≠ []) (h : ∀ e ∈ es, e.IsValid) :
    (lines (generate es).toList = composedLines es ↔ KeepsLines es) ∧
      (KeepsLines es →
        (statements (generate es).toList).map Prod.snd
          = ((diagramLines (Table.showFrom 0 (es.map Entity.toTable))).map String.toList).filterMap
              lineStatement?) := by
  have hempty : (es.map Entity.toTable).isEmpty = false := by simpa using hne
  have hnewline : "\n".toList = ['\n'] := rfl
  have htext : (generate es).toList = ['\n'].intercalate
      ((diagramLines (Table.showFrom 0 (es.map Entity.toTable))).map String.toList) := by
    rw [generate, generateTables, hempty, if_neg Bool.false_ne_true, String.toList_intercalate,
      hnewline]
  have hlines : (∀ l ∈ (diagramLines (Table.showFrom 0 (es.map Entity.toTable))).map
      String.toList, IsLine l) ↔ KeepsLines es := by
    rw [List.forall_mem_map]
    exact isLine_diagramLines_iff h
  rw [htext]
  exact ⟨lines_intercalate_iff.trans hlines,
    fun hkeeps => statements_intercalate (hlines.mpr hkeeps)⟩

/-- An entity and a field that have not been given names yet. -/
def unnamedUsers : List Entity :=
  [{ id := ⟨"users"⟩, name := ""
     fields := [{ id := ⟨"users.id"⟩, name := "", description := some "to be named" }] }]

/-- Where names are missing, the lines with the names that stand in for them are read. -/
theorem lines_generate_unnamedUsers :
    lines (generate unnamedUsers).toList = composedLines unnamedUsers :=
  (lines_generate_iff (List.cons_ne_nil _ _) (by decide +kernel)).1.mpr
    ⟨by decide +kernel, by decide +kernel, by decide +kernel⟩

/-- Users with a description over several lines, which ends the block and opens another one. -/
def splitUsers : List Entity :=
  [{ id := ⟨"users"⟩, name := "Users"
     fields :=
      [{ id := ⟨"users.id"⟩, name := "id", type := .int, isPrimary := true
         description := some "key\u2028\x7d\u2028Admins \x7b\u2028int level" }] }]

/-- The description is valid, for a line separator is neither a carriage return nor a line feed, and
yet the text has other lines than those that were written.  It is read as two entities. -/
theorem lines_generate_splitUsers :
    (∀ e ∈ splitUsers, e.IsValid) ∧
      lines (generate splitUsers).toList ≠ composedLines splitUsers ∧
      (parse .byLabel .oneToOne .strokes (generate splitUsers)).1.entities.map Entity.name
        = ["Users", "Admins"] := by
  refine ⟨by decide +kernel, by decide +kernel, by decide +kernel⟩

end DiagramSync
