import DiagramSync.Text.Blank
import DiagramSync.Text.Case
import DiagramSync.Value

/-!
# Column types

A field has one of sixteen types.  People write many more: sizes in parentheses, array brackets,
the names that one database or another uses.  Reading a type never fails; what is not understood
is a string.

* `FieldType`, `FieldType.word`, `FieldType.ofWord?` — the types and their written names
* `FieldType.synonyms` — other names and what they mean
* `FieldType.withoutSuffix` — a type token without its size or array suffix
* `FieldType.ofToken`, `FieldType.ofValue` — the type a token, or any loose value, stands for
-/

namespace DiagramSync

/-- The type of a column. -/
inductive FieldType where
  | string
  | text
  | int
  | float
  | number
  | decimal
  | boolean
  | date
  | datetime
  | timestamp
  | json
  | jsonb
  | uuid
  | enum
  | phone
  | email
  deriving Repr, DecidableEq, Inhabited

namespace FieldType

/-! ## Written names -/

/-- The types in the order in which they are offered. -/
def all : List FieldType :=
  [string, text, int, float, number, decimal, boolean, date, datetime, timestamp, json, jsonb,
    uuid, enum, phone, email]

/-- The written name. -/
def word : FieldType → String
  | string => "string"
  | text => "text"
  | int => "int"
  | float => "float"
  | number => "number"
  | decimal => "decimal"
  | boolean => "boolean"
  | date => "date"
  | datetime => "datetime"
  | timestamp => "timestamp"
  | json => "json"
  | jsonb => "jsonb"
  | uuid => "uuid"
  | enum => "enum"
  | phone => "phone"
  | email => "email"

/-- The type with that written name. -/
def ofWord? (w : String) : Option FieldType :=
  all.find? fun t => t.word == w

@[simp] theorem ofWord?_word (t : FieldType) : ofWord? t.word = some t := by
  cases t <;> decide

/-- Names that other tools use, and the type each of them means. -/
def synonyms : List (String × FieldType) :=
  [("varchar", string), ("nvarchar", string), ("char", string), ("character", string),
   ("str", string), ("longtext", text), ("mediumtext", text), ("clob", text), ("integer", int),
   ("bigint", int), ("smallint", int), ("tinyint", int), ("serial", int), ("bigserial", int),
   ("double", float), ("real", float), ("float4", float), ("float8", float),
   ("numeric", decimal), ("money", decimal), ("bool", boolean), ("bit", boolean),
   ("time", timestamp), ("timestamptz", timestamp), ("guid", uuid)]

/-- The type that a lower-case name without suffix stands for. -/
def ofName (name : String) : FieldType :=
  match ofWord? name with
  | some t => t
  | none => ((synonyms.find? fun s => s.1 == name).map (·.2)).getD string

/-! ## Tokens -/

/-- Nothing but the end of the line follows, and the line is the last one. -/
def onLastLine (cs : List Char) : Bool :=
  match cs.dropWhile (· != '\n') with
  | [] => true
  | [_] => true
  | _ => false

/-- The token up to the first opening parenthesis or bracket of its last line; what follows the
parenthesis on that line is dropped, be it closed or not. -/
def withoutSuffix : List Char → List Char
  | [] => []
  | c :: cs =>
    if (c == '(' || c == '[') && onLastLine cs then
      cs.dropWhile (· != '\n')
    else
      c :: withoutSuffix cs

/-- The type that a token stands for; a token that names no type means `string`. -/
def ofToken (token : String) : FieldType :=
  ofName (String.ofList (Text.lower (Text.trim (withoutSuffix token.toList))))

/-- The type that a loose value stands for; a value that is no text means `string`. -/
def ofValue : Value → FieldType
  | .text token => ofToken token
  | _ => string

end FieldType

end DiagramSync
