import DiagramSync.Text.Blank
import DiagramSync.Text.LineBreak

/-!
# Texts that can be written into a diagram

Names, descriptions and labels are cleaned when they are set, so that they can be written between
the quotes of a diagram and read back.  A quote, a brace, a bar or a line break in a name would
end the name early.

* `cleanEntityName` — a name that may hold spaces
* `cleanFieldName` — a name that is a single token
* `cleanRemark` — a description or a label; a blank one is none

Each is a function on texts first (`entityNameChars`, `fieldNameChars`, `remarkChars`), which is
where their laws are stated.
-/

namespace DiagramSync

open Text

/-! ## Steps -/

/-- A no-break space becomes a space. -/
def plainSpace (c : Char) : Char :=
  if c = '\u00a0' then ' ' else c

/-- A double quote becomes a single one. -/
def singleQuote (c : Char) : Char :=
  if c = '"' then '\x27' else c

/-- The characters that delimit blocks and relationship symbols. -/
def isDelimiter (c : Char) : Bool :=
  c == '{' || c == '}' || c == '|'

/-- Every run of blanks becomes one underscore. -/
def underscoreBlanks : List Char → List Char
  | [] => []
  | [c] => [if isBlank c then '_' else c]
  | c :: d :: cs =>
    if isBlank c then
      if isBlank d then underscoreBlanks (d :: cs) else '_' :: underscoreBlanks (d :: cs)
    else
      c :: underscoreBlanks (d :: cs)

/-! ## The three kinds of text -/

/-- An entity name as it can be written: on one line, without delimiters, trimmed, with single
quotes for double ones. -/
def entityNameChars (cs : List Char) : List Char :=
  let joined := trim (joinBreaks (cs.map plainSpace))
  trim ((joined.map singleQuote).filter fun c => !isDelimiter c)

/-- A field name as it can be written: a single token without quotes and delimiters. -/
def fieldNameChars (cs : List Char) : List Char :=
  let trimmed := trim (cs.map plainSpace)
  underscoreBlanks ((trimmed.filter (· != '"')).filter fun c => !isDelimiter c)

/-- A remark as it can be written, or nothing if that would be blank. -/
def remarkChars (cs : List Char) : Option (List Char) :=
  let remark := (joinBreaks cs).map singleQuote
  if isBlankText remark then none else some remark

/-- An entity name without what would break the diagram it is written into. -/
def cleanEntityName (name : String) : String :=
  String.ofList (entityNameChars name.toList)

/-- A field name without what would break the diagram it is written into. -/
def cleanFieldName (name : String) : String :=
  String.ofList (fieldNameChars name.toList)

/-- A description or label without what would break the diagram it is written into; a blank one
counts as absent. -/
def cleanRemark (remark : Option String) : Option String :=
  remark.bind fun r => (remarkChars r.toList).map String.ofList

end DiagramSync
