import DiagramSync.Diagram.Relationship
import DiagramSync.Model.Entity

/-!
# What comes out of reading a diagram

Reading never fails with an exception: a text is either accepted, with the entities it declares, or
rejected for one of a few reasons.  Either way it may come with warnings about what was skipped.

* `Warning`, `Warning.message` — recoverable problems
* `ParseErrorKind`, `ParseError` — reasons for a rejection, and what to tell the user
* `ParseOutcome` — accepted or rejected
-/

namespace DiagramSync

/-! ## Warnings -/

/-- A problem that reading passes over. -/
inductive Warning where
  /-- The block opened on that line is interrupted by another one or by the end of the text. -/
  | neverClosed (line : Nat) (entity : String)
  /-- A field line repeats the name of an earlier field of its entity. -/
  | duplicateField (line : Nat) (field entity : String)
  /-- A relationship names an entity that is not declared. -/
  | unknownEntity (line : Nat) (entity : String)
  /-- No field was picked for a relationship. -/
  | noForeignKey (line : Nat) (source target : String)
  deriving Repr, DecidableEq

/-- What a warning says. -/
def Warning.message : Warning → String
  | neverClosed n e => s!"Line {n}: block for '" ++ e ++ "' is never closed"
  | duplicateField n f e =>
    s!"Line {n}: duplicate field '" ++ f ++ "' in '" ++ e ++ "' skipped"
  | unknownEntity n e => s!"Line {n}: relationship references unknown entity '" ++ e ++ "'"
  | noForeignKey n s t =>
    s!"Line {n}: no FK field on '" ++ s ++ "' matches '" ++ t ++ "'"

/-! ## Errors -/

/-- Why a diagram is rejected. -/
inductive ParseErrorKind where
  | missingHeader
  | noEntitiesFound
  | duplicateEntity
  | internal
  deriving Repr, DecidableEq

namespace ParseErrorKind

/-- The kinds in the order in which they are listed. -/
def all : List ParseErrorKind :=
  [missingHeader, noEntitiesFound, duplicateEntity, internal]

/-- The written name. -/
def word : ParseErrorKind → String
  | missingHeader => "missing_header"
  | noEntitiesFound => "no_entities_found"
  | duplicateEntity => "duplicate_entity"
  | internal => "internal"

/-- The kind with that written name. -/
def ofWord? (w : String) : Option ParseErrorKind :=
  all.find? fun k => k.word == w

/-- The heading under which a user is told. -/
def title : ParseErrorKind → String
  | missingHeader => "Invalid diagram"
  | noEntitiesFound => "No entities found"
  | duplicateEntity => "Duplicate entity names"
  | internal => "Diagram could not be parsed"

end ParseErrorKind

/-- A reason for a rejection, with what to tell the user. -/
structure ParseError where
  /-- The reason. -/
  kind : ParseErrorKind
  /-- What to tell the user. -/
  message : String
  deriving Repr, DecidableEq

/-- The text does not start as a diagram does. -/
def ParseError.missingHeader : ParseError :=
  ⟨.missingHeader, "Invalid ER diagram: text must start with 'erDiagram'."⟩

/-- The text declares no entity. -/
def ParseError.noEntities : ParseError :=
  ⟨.noEntitiesFound, "The diagram header is present but no entity blocks were found."⟩

/-- A resolver failed with a message of its own. -/
def ParseError.unexpected (reason : String) : ParseError :=
  ⟨.internal, "Unexpected parsing error: " ++ reason⟩

/-! ## Outcomes -/

/-- The outcome of reading a diagram. -/
inductive ParseOutcome where
  /-- The entities and relationships of the text in order. -/
  | accepted (entities : List Entity) (relationships : List Relationship) (warnings : List Warning)
  /-- Nothing could be made of the text. -/
  | rejected (error : ParseError) (warnings : List Warning)
  deriving Repr, DecidableEq

namespace ParseOutcome

/-- The text was accepted. -/
def isAccepted : ParseOutcome → Bool
  | accepted .. => true
  | rejected .. => false

/-- The entities of the text; a rejected text has none. -/
def entities : ParseOutcome → List Entity
  | accepted es _ _ => es
  | rejected .. => []

/-- The relationships of the text; a rejected text has none. -/
def relationships : ParseOutcome → List Relationship
  | accepted _ rs _ => rs
  | rejected .. => []

/-- Why the text was rejected. -/
def error? : ParseOutcome → Option ParseError
  | accepted .. => none
  | rejected e _ => some e

/-- The warnings in the order in which they arose. -/
def warnings : ParseOutcome → List Warning
  | accepted _ _ ws => ws
  | rejected _ ws => ws

/-- What there is to tell about the text: why it was rejected, if it was, and the warnings. -/
def messages (o : ParseOutcome) : List String :=
  (o.error?.map (·.message)).toList ++ o.warnings.map Warning.message

end ParseOutcome

end DiagramSync
