import DiagramSync.Diagram.LineForm
import DiagramSync.Diagram.Outcome
import DiagramSync.Model.Wording
import DiagramSync.Text.LineBreak

/-!
# Scanning a diagram

A diagram is scanned statement by statement.  A statement is a trimmed line that is neither empty
nor a comment; the first one that starts with the header token is the header.  Every other
statement is read according to whether a block is open: inside one it closes the block, opens
another or describes a field; outside it opens a block, relates two entities or declares one.
Statements of any other form are passed over.

* `header`, `statements` — the header token, and the numbered statements of a text
* `OutsideForm`, `outsideForm` — what a statement says outside a block
* `InsideForm`, `insideForm` — what it says inside one
* `Scan` — what has been scanned so far, with `Scan.step` for a statement and `Scan.finish` for
  the end of the text
* `scan` — a whole text
-/

namespace DiagramSync

open Text

/-! ## Statements -/

/-- The token that a diagram starts with. -/
def header : String :=
  "erDiagram"

/-- The tokens that start a comment. -/
def commentMarkers : List String :=
  ["%%", "--"]

/-- The line starts with the header token. -/
def isHeader (line : List Char) : Bool :=
  header.toList.isPrefixOf line

/-- The line is a comment. -/
def isComment (line : List Char) : Bool :=
  commentMarkers.any fun m => m.toList.isPrefixOf line

/-- The text, trimmed, starts with the header token. -/
def hasHeader (text : List Char) : Bool :=
  isHeader (trim text)

/-- The trimmed lines that say something, each with its number from the given one on. -/
def numberedStatements (n : Nat) : List (List Char) → List (Nat × List Char)
  | [] => []
  | l :: ls =>
    let line := trim l
    if line.isEmpty || isComment line then
      numberedStatements (n + 1) ls
    else
      (n, line) :: numberedStatements (n + 1) ls

/-- The statements of a text with their line numbers, counted from one. -/
def statements (text : List Char) : List (Nat × List Char) :=
  numberedStatements 1 (lines text)

/-! ## What a statement says -/

/-- A relationship as a line states it: its parts, and what the symbol means. -/
structure StatedRelationship where
  /-- The parts as they are written. -/
  parts : LineForm.RelationshipParts
  /-- The cardinality that the symbol means. -/
  cardinality : Cardinality
  /-- The style in which the line is drawn. -/
  style : LineStyle
  deriving Repr, DecidableEq

/-- What a statement says where no block is open. -/
inductive OutsideForm where
  /-- Opens a block, or declares an entity without fields. -/
  | opening (name : List Char) (closed : Bool)
  /-- Relates two entities. -/
  | relationship (stated : StatedRelationship)
  /-- Declares an entity. -/
  | bare (name : List Char)
  /-- Nothing. -/
  | other
  deriving Repr, DecidableEq

/-- The relationship that a line states, if its symbol means something. -/
def statedRelationship? (line : List Char) : Option StatedRelationship := do
  let parts ← LineForm.relationship? line
  let (cardinality, style) ← Symbol.read? parts.symbol
  return { parts, cardinality, style }

/-- What a statement says where no block is open.  The forms are tried in this order. -/
def outsideForm (line : List Char) : OutsideForm :=
  match LineForm.blockOpening? line with
  | some (name, closed) => .opening name closed
  | none =>
    match statedRelationship? line with
    | some stated => .relationship stated
    | none =>
      match LineForm.bareEntity? line with
      | some name => .bare name
      | none => .other

/-- What a statement says inside a block. -/
inductive InsideForm where
  /-- Closes the block. -/
  | closing
  /-- Opens another block. -/
  | opening
  /-- Describes a field. -/
  | field (parts : LineForm.FieldParts)
  /-- Nothing. -/
  | other
  deriving Repr, DecidableEq

/-- What a statement says inside a block.  The forms are tried in this order. -/
def insideForm (line : List Char) : InsideForm :=
  if line = ['}'] then .closing
  else if (LineForm.blockOpening? line).isSome then .opening
  else
    match LineForm.field? line with
    | some parts => .field parts
    | none => .other

/-! ## Names and values of what was read -/

/-- A name as it is kept. -/
def keptName (name : List Char) : String :=
  String.ofList (entityNameChars name)

/-- The relationship that is kept of a line with that number. -/
def StatedRelationship.keep (line : Nat) (s : StatedRelationship) : Relationship where
  source := keptName s.parts.source
  target := keptName s.parts.target
  symbol := String.ofList s.parts.symbol
  cardinality := s.cardinality
  label := s.parts.label.map String.ofList
  identifying := s.style == .solid
  line := some line

/-- The field that is kept of a field line; a foreign key points nowhere yet and has the given
cardinality. -/
def keptField (unlinked : Cardinality) (id : Id) (parts : LineForm.FieldParts) : Field where
  id := id
  name := String.ofList (fieldNameChars parts.name)
  type := .ofToken (String.ofList parts.type)
  isPrimary := parts.hasMarker "PK"
  isForeign := parts.hasMarker "FK"
  description := cleanRemark (parts.description.map String.ofList)
  reference := if parts.hasMarker "FK" then some { cardinality := unlinked } else none

/-! ## The scan -/

/-- A block that is open. -/
structure OpenBlock where
  /-- The name of its entity. -/
  entity : String
  /-- The line that opened it. -/
  line : Nat
  deriving Repr, DecidableEq

/-- What has been scanned so far. -/
structure Scan where
  /-- The header has been seen. -/
  headerSeen : Bool := false
  /-- The entities in the order in which they were first declared. -/
  entities : List Entity := []
  /-- The relationships with their line numbers. -/
  relationships : List (Nat × Relationship) := []
  /-- The warnings so far. -/
  warnings : List Warning := []
  /-- The block that is open. -/
  current : Option OpenBlock := none
  /-- Where new ids come from. -/
  supply : Supply

namespace Scan

/-- The scan with a warning more. -/
def warn (w : Warning) (s : Scan) : Scan :=
  { s with warnings := s.warnings ++ [w] }

/-- The entity of that name, as far as it has been scanned. -/
def entity? (s : Scan) (name : String) : Option Entity :=
  s.entities.find? fun e => e.name == name

/-- The scan with an entity of that name, which is new unless it has been declared before. -/
def declare (name : String) (s : Scan) : Scan :=
  if (s.entity? name).isSome then
    s
  else
    let (id, supply) := s.supply.draw
    { s with entities := s.entities ++ [{ id, name }], supply }

/-- The scan with a field more on the entity of that name. -/
def addField (name : String) (f : Id → Field) (s : Scan) : Scan :=
  let (id, supply) := s.supply.draw
  let extend (e : Entity) : Entity :=
    if e.name == name then { e with fields := e.fields ++ [f id] } else e
  { s with entities := s.entities.map extend, supply }

/-- The scan after a statement outside a block. -/
def stepOutside (n : Nat) (line : List Char) (s : Scan) : Scan :=
  match outsideForm line with
  | .opening written closed =>
    let name := keptName written
    if name = "" then s
    else if closed then s.declare name
    else { s.declare name with current := some ⟨name, n⟩ }
  | .relationship stated => { s with relationships := s.relationships ++ [(n, stated.keep n)] }
  | .bare written =>
    let name := keptName written
    if name = "" then s else s.declare name
  | .other => s

/-- The scan after a field line of the open block: a name that the entity has already is passed
over with a warning. -/
def stepField (unlinked : Cardinality) (n : Nat) (block : OpenBlock)
    (parts : LineForm.FieldParts) (s : Scan) : Scan :=
  let name := String.ofList (fieldNameChars parts.name)
  if name = "" then
    s
  else if ((s.entity? block.entity).bind (·.findFieldNamed? name)).isSome then
    s.warn (.duplicateField n name block.entity)
  else
    s.addField block.entity fun id => keptField unlinked id parts

/-- The scan after a statement inside a block. -/
def stepInside (unlinked : Cardinality) (n : Nat) (block : OpenBlock) (line : List Char)
    (s : Scan) : Scan :=
  match insideForm line with
  | .closing => { s with current := none }
  | .opening =>
    ({ s.warn (.neverClosed block.line block.entity) with current := none }).stepOutside n line
  | .field parts => s.stepField unlinked n block parts
  | .other => s

/-- The scan after a statement. -/
def step (unlinked : Cardinality) (s : Scan) (statement : Nat × List Char) : Scan :=
  let (n, line) := statement
  if !s.headerSeen && isHeader line then
    { s with headerSeen := true }
  else
    match s.current with
    | some block => s.stepInside unlinked n block line
    | none => s.stepOutside n line

/-- The scan at the end of the text: a block that is still open is never closed. -/
def finish (s : Scan) : Scan :=
  match s.current with
  | some block => s.warn (.neverClosed block.line block.entity)
  | none => s

end Scan

/-- Scans a text.  Foreign keys get the cardinality `unlinked` until they are linked. -/
def scan (unlinked : Cardinality) (supply : Supply) (text : List Char) : Scan :=
  ((statements text).foldl (Scan.step unlinked) { supply }).finish

end DiagramSync
