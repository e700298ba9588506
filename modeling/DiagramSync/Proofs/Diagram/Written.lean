import DiagramSync.Proofs.Diagram.FieldLines
import DiagramSync.Proofs.Diagram.RelationshipLines

/-!
# Written statements read back

Three kinds of statement are written into a diagram besides the header and the closing brace: one
that opens a block, one for a field, and one for a relationship.  For each of them this file gives
the characters and shows that reading finds its parts again; the last two are lines of the grammar.
Nothing is asked of a text between quotes but that it holds no double quote itself.

* `openingStatement`, `fieldStatement`, `relationshipStatement` — the characters
* `writtenField`, `writtenRelationship` — the lines of the grammar that they are
* `outsideForm_opening`, `insideForm_field`, `outsideForm_relationship` — what is read from them
* `word_chars`, `hasMarker_markerTokens` — the characters of a type, and its markers found again
-/

namespace DiagramSync

open Text LineForm

/-! ## The characters -/

/-- The statement that opens a block. -/
def openingStatement (name : List Char) : List Char :=
  '"' :: (name ++ ['"', ' ', '{'])

/-- A remark as it stands at the end of a field statement. -/
def remarkSuffix : Option (List Char) → List Char
  | some remark => ' ' :: '"' :: (remark ++ ['"'])
  | none => []

/-- The statement of a field; `marker` starts with a space or is empty. -/
def fieldStatement (type name marker : List Char) (remark : Option (List Char)) : List Char :=
  type ++ ' ' :: (name ++ (marker ++ remarkSuffix remark))

/-- The statement of a relationship. -/
def relationshipStatement (source symbol target label : List Char) : List Char :=
  '"' :: (source ++ '"' :: ' ' :: (symbol ++ ' ' :: '"' :: (target ++ '"' :: ' ' :: ':' :: ' ' ::
    '"' :: (label ++ ['"']))))

/-! ## Openings -/

/-- A written opening is read as the opening of a block with that name. -/
theorem outsideForm_opening {name : List Char} (h : IsUnquoted name) (hne : name ≠ []) :
    outsideForm (openingStatement name) = .opening name false := by
  have hopen : blockOpening? (openingStatement name) = some (name, false) := by
    rw [openingStatement, blockOpening?, name?_quoted h hne]
    rfl
  rw [outsideForm, hopen]

/-! ## Relationships -/

/-- The marker that is written on the left of a symbol. -/
def nearMarker : Multiplicity → EndMarker
  | .one => .barBar
  | .many => .footRing

/-- The marker that is written on the right of a symbol. -/
def farMarker : Multiplicity → EndMarker
  | .one => .barBar
  | .many => .ringFoot

section Relationship

variable {source target label : List Char} (hs : IsUnquoted source) (ht : IsUnquoted target)
  (hl : IsUnquoted label) (hsne : source ≠ []) (htne : target ≠ []) (c : Cardinality)

/-- The line that a written relationship is. -/
def writtenRelationship : RelationshipLine where
  source := .quoted source hsne hs
  beforeSymbol := .space
  near := nearMarker c.near
  style := .solid
  far := farMarker c.far
  beforeTarget := .space
  target := .quoted target htne ht
  label := .quoted .space .space label hl .none

lemma symbol_writtenRelationship :
    (writtenRelationship hs ht hl hsne htne c).symbol = c.symbol.toList := by
  cases c <;> rfl

lemma chars_writtenRelationship : (writtenRelationship hs ht hl hsne htne c).chars
    = relationshipStatement source c.symbol.toList target label := by
  rw [RelationshipLine.chars, symbol_writtenRelationship]
  simp [writtenRelationship, relationshipStatement, RelationshipLine.tail, WrittenName.chars,
    WrittenLabel.chars, Blanks.space, Blanks.none]

include hs ht hl hsne htne in
/-- A written relationship is read as the relationship of those names, with the cardinality of its
symbol, a solid line and that label. -/
theorem outsideForm_relationship :
    outsideForm (relationshipStatement source c.symbol.toList target label)
      = .relationship ⟨⟨⟨c.symbol.toList, target, some label⟩, source⟩, c, .solid⟩ := by
  rw [← chars_writtenRelationship hs ht hl hsne htne c, RelationshipLine.outsideForm_chars,
    RelationshipLine.stated, symbol_writtenRelationship]
  cases c <;> rfl

end Relationship

/-! ## Fields -/

/-- The marker of a field as it stands after the name: a primary key does not show that it is a
foreign key too. -/
def markerChars (primary foreign : Bool) : List Char :=
  if primary then [' ', 'P', 'K'] else if foreign then [' ', 'F', 'K'] else []

/-- The marker as a token. -/
def markerTokens (primary foreign : Bool) : List (List Char) :=
  if primary then [['P', 'K']] else if foreign then [['F', 'K']] else []

/-- The name of a type is a token that starts like a field statement has to. -/
lemma word_chars (t : FieldType) : IsTokenText t.word.toList ∧
    ∃ c cs, t.word.toList = c :: cs ∧ (c.isAlpha = true ∨ c = '_') := by
  constructor
  · cases t <;> decide
  · cases t <;> exact ⟨_, _, rfl, by decide⟩

/-- A marker after a space. -/
def spacedMarker (marker : List Char) (hne : marker ≠ []) (htoken : IsTokenText marker)
    (hcomma : ∀ c ∈ marker, c ≠ ',') : WrittenMarker where
  before := [' ']
  separated := by decide
  separators := by simp [isBlank]
  marker := marker
  nonempty := hne
  token := htoken
  comma := hcomma

/-- The marker of a field as it is written. -/
def writtenMarkers (primary foreign : Bool) : List WrittenMarker :=
  if primary then [spacedMarker ['P', 'K'] (by decide) (by decide) (by simp)]
  else if foreign then [spacedMarker ['F', 'K'] (by decide) (by decide) (by simp)]
  else []

section Field

variable {name : List Char} {remark : Option (List Char)} (t : FieldType) (primary foreign : Bool)
  (hname : IsTokenText name) (hnamed : fieldNameChars name ≠ [])
  (hremark : ∀ r ∈ remark, IsUnquoted r)

/-- The line that the statement of a field is. -/
def writtenField : WrittenField where
  type := t.word.toList
  typeToken := (word_chars t).1
  lead := by
    obtain ⟨c, cs, htext, hlead⟩ := (word_chars t).2
    exact ⟨c, by rw [htext]; rfl, hlead⟩
  gap := .space
  apart := Blanks.space_ne_nil
  name := name
  nameToken := hname
  named := hnamed
  markers := writtenMarkers primary foreign
  trailing := if remark.isSome then [' '] else []
  separators := by split_ifs <;> simp [isBlank]
  spaced := by
    cases primary <;> cases foreign <;> cases remark <;>
      simp [writtenMarkers, spacedMarker, WrittenMarker.chars, isBlank]
  description := remark.pmap (fun r hr => ⟨r, hr, .none⟩) hremark

lemma chars_writtenField : (writtenField t primary foreign hname hnamed hremark).chars
    = fieldStatement t.word.toList name (markerChars primary foreign) remark := by
  cases primary <;> cases foreign <;> cases remark <;>
    simp [WrittenField.chars, WrittenField.tail, WrittenField.markerRun, writtenField,
      writtenMarkers, spacedMarker, WrittenMarker.chars, WrittenRemark.chars,
      Blanks.space, Blanks.none, fieldStatement, markerChars, remarkSuffix]

lemma parts_writtenField : (writtenField t primary foreign hname hnamed hremark).parts
    = ⟨t.word.toList, name, markerTokens primary foreign, remark⟩ := by
  cases primary <;> cases foreign <;> cases remark <;> rfl

include hname hnamed hremark in
/-- **A written field is read as that field**: with its type, its name, the marker that was shown
and its remark. -/
theorem insideForm_field :
    insideForm (fieldStatement t.word.toList name (markerChars primary foreign) remark)
      = .field ⟨t.word.toList, name, markerTokens primary foreign, remark⟩ := by
  rw [← chars_writtenField t primary foreign hname hnamed hremark, WrittenField.insideForm_chars,
    parts_writtenField]

end Field

/-- The marker that was shown is found again. -/
lemma hasMarker_markerTokens (type name : List Char) (primary foreign : Bool)
    (remark : Option (List Char)) :
    let parts : FieldParts := ⟨type, name, markerTokens primary foreign, remark⟩
    parts.hasMarker "PK" = primary ∧ parts.hasMarker "FK" = (!primary && foreign) := by
  change (markerTokens primary foreign).any _ = _ ∧ (markerTokens primary foreign).any _ = _
  cases primary <;> cases foreign <;> decide

end DiagramSync
