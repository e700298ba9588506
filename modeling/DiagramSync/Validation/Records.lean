import DiagramSync.Diagram.Outcome
import DiagramSync.Store.Change
import DiagramSync.Validation.Checked

/-!
# Reading relationships, errors and changes out of loose values

These records are read as they are: their texts are not cleaned.

* `Relationship.check`, `ParseError.check`, `Change.check` — the readers
-/

namespace DiagramSync

/-- Reads a relationship. -/
def Relationship.check : Value → Checked Relationship
  | .record as =>
    (fun source target symbol cardinality label identifying line =>
        { source, target, symbol, cardinality, label, identifying, line }) <$>
      Checked.required as "from_entity" Checked.text <*>
      Checked.required as "to_entity" Checked.text <*>
      Checked.required as "symbol" Checked.text <*>
      Checked.required as "cardinality" (Checked.word Cardinality.ofWord?) <*>
      Checked.optional as "label" none Checked.optionalText <*>
      Checked.optional as "identifying" true Checked.flag <*>
      Checked.optional as "line_number" none Checked.optionalInteger
  | _ => Checked.issue [] .modelType

/-- Reads a parse error. -/
def ParseError.check : Value → Checked ParseError
  | .record as =>
    (fun kind message => { kind, message }) <$>
      Checked.required as "kind" (Checked.word ParseErrorKind.ofWord?) <*>
      Checked.required as "message" Checked.text
  | _ => Checked.issue [] .modelType

/-- Reads a change. -/
def Change.check : Value → Checked Change
  | .record as =>
    (fun version source operation => { version, source, operation }) <$>
      Checked.required as "version" Checked.atLeastZero <*>
      Checked.required as "source" (Checked.word ChangeSource.ofWord?) <*>
      Checked.required as "operation" Checked.text
  | _ => Checked.issue [] .modelType

end DiagramSync
