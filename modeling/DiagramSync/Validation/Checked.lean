import DiagramSync.Text.Numeral
import DiagramSync.Value
import DiagramSync.Value.Decimal

/-!
# Reading loose values attribute by attribute

Reading a record reports everything that is wrong with it at once: one issue per attribute that
could not be read, in the order in which the attributes are declared.

* `IssueKind`, `Issue` — what is wrong, and where
* `Checked` — a result, or the issues that stand in its way; combining two collects the issues of
  both
* `Checked.text`, `Checked.optionalText`, `Checked.flag`, `Checked.integer`, `Checked.atLeastZero`,
  `Checked.word` — the attributes that records have
* `Checked.required`, `Checked.optional` — an attribute that must, or need not, be present
-/

namespace DiagramSync

/-! ## Issues -/

/-- What can be wrong with an attribute. -/
inductive IssueKind where
  /-- A required attribute is absent. -/
  | missing
  /-- Something else where a text is needed. -/
  | stringType
  /-- Something that looks like a flag or a number, but is no flag. -/
  | boolParsing
  /-- Something that cannot be a flag at all. -/
  | boolType
  /-- A text that is no integer. -/
  | intParsing
  /-- A number too large to be taken for an integer. -/
  | intParsingSize
  /-- A number with a fractional part where an integer is needed. -/
  | intFromFloat
  /-- Something that cannot be an integer at all. -/
  | intType
  /-- An integer below the least one allowed. -/
  | greaterThanEqual
  /-- Not one of the words that are allowed. -/
  | enum
  /-- Something else where a list is needed. -/
  | listType
  /-- Something else where a record is needed. -/
  | modelType
  /-- A text that breaks a rule of its own attribute. -/
  | valueError
  /-- An attribute that nobody knows. -/
  | extraForbidden
  /-- Something else where a file path is needed. -/
  | pathType
  deriving Repr, DecidableEq

/-- The written name of an issue. -/
def IssueKind.word : IssueKind → String
  | missing => "missing"
  | stringType => "string_type"
  | boolParsing => "bool_parsing"
  | boolType => "bool_type"
  | intParsing => "int_parsing"
  | intParsingSize => "int_parsing_size"
  | intFromFloat => "int_from_float"
  | intType => "int_type"
  | greaterThanEqual => "greater_than_equal"
  | enum => "enum"
  | listType => "list_type"
  | modelType => "model_type"
  | valueError => "value_error"
  | extraForbidden => "extra_forbidden"
  | pathType => "path_type"

/-- One thing that is wrong, and the path of attributes and positions that leads to it. -/
structure Issue where
  /-- The attributes and positions from the outside in. -/
  path : List String
  /-- What is wrong there. -/
  kind : IssueKind
  deriving Repr, DecidableEq

/-- The written form of an issue: the path, joined by points, and the kind. -/
def Issue.render (i : Issue) : String :=
  ".".intercalate i.path ++ ":" ++ i.kind.word

/-- The written form of several issues. -/
def Issue.renderAll (issues : List Issue) : String :=
  "; ".intercalate (issues.map Issue.render)

/-! ## Results with issues -/

/-- A value that was read, or the issues that were found instead. -/
inductive Checked (α : Type) where
  | good (value : α)
  | bad (issues : List Issue)

namespace Checked

/-- Applies what was read to what was read; the issues of both sides are kept, in this order. -/
instance : Applicative Checked where
  pure := good
  seq f x :=
    match f, x () with
    | good g, good a => good (g a)
    | good _, bad is => bad is
    | bad is, good _ => bad is
    | bad is, bad js => bad (is ++ js)

/-- A single issue. -/
def issue (path : List String) (kind : IssueKind) : Checked α :=
  bad [⟨path, kind⟩]

/-- The same result with every path led to from an outer attribute or position. -/
def within (step : String) : Checked α → Checked α
  | good a => good a
  | bad is => bad (is.map fun i => { i with path := step :: i.path })

/-- The result as an exception that carries the issues. -/
def toExcept : Checked α → Except (List Issue) α
  | good a => .ok a
  | bad is => .error is

/-- The results of a list, each led to from its position. -/
def collect (position : Nat) : List (Checked α) → Checked (List α)
  | [] => good []
  | x :: xs => List.cons <$> x.within (toString position) <*> collect (position + 1) xs

/-! ## Attributes -/

/-- A text. -/
def text : Value → Checked String
  | .text s => good s
  | _ => issue [] .stringType

/-- A text or nothing. -/
def optionalText : Value → Checked (Option String)
  | .null => good none
  | .text s => good (some s)
  | _ => issue [] .stringType

/-- The words that mean no, in lower case. -/
def noWords : List String :=
  ["0", "off", "f", "false", "n", "no"]

/-- The words that mean yes, in lower case. -/
def yesWords : List String :=
  ["1", "on", "t", "true", "y", "yes"]

/-- The flag that a word stands for, in any case of letters. -/
def flagOfWord? (w : String) : Option Bool :=
  let key := String.ofList (w.toList.map Char.toLower)
  if noWords.contains key then some false
  else if yesWords.contains key then some true
  else none

/-- The flag that an integer stands for: zero or one. -/
def flagOfInt? (n : Int) : Option Bool :=
  if n = 0 then some false else if n = 1 then some true else none

/-- A machine word of 64 bits holds the integer. -/
def fitsWord (n : Int) : Bool :=
  -9223372036854775808 ≤ n && n < 9223372036854775808

/-- The integer that a decimal is.  It must lie within the machine words, their ends excluded. -/
def integerOfDecimal (x : Float) : Checked Int :=
  match wholeOf? x with
  | none => issue [] .intFromFloat
  | some n => if n.natAbs < 9223372036854775808 then good n else issue [] .intParsingSize

/-- A flag, a word for one, or one of the numbers zero and one. -/
def flag : Value → Checked Bool
  | .flag b => good b
  | .text w => ((flagOfWord? w).map good).getD (issue [] .boolParsing)
  | .whole n =>
    if fitsWord n then ((flagOfInt? n).map good).getD (issue [] .boolParsing)
    else issue [] .boolType
  | .decimal x =>
    match integerOfDecimal x with
    | good n => ((flagOfInt? n).map good).getD (issue [] .boolParsing)
    | bad _ => issue [] .boolType
  | _ => issue [] .boolType

/-- How many characters the numeral of an integer may take. -/
def longestNumeral : Nat := 4300

/-- The integer that a text says. -/
def integerOfText (s : String) : Checked Int :=
  match Text.Numeral.read? s.toList with
  | none => issue [] .intParsing
  | some n => if n.length ≤ longestNumeral then good n.value else issue [] .intParsingSize

/-- An integer, a flag, a whole decimal or a text that says an integer. -/
def integer : Value → Checked Int
  | .whole n => good n
  | .flag b => good (if b then 1 else 0)
  | .decimal x => integerOfDecimal x
  | .text s => integerOfText s
  | _ => issue [] .intType

/-- An integer that is not negative. -/
def atLeastZero (v : Value) : Checked Nat :=
  match integer v with
  | good n => if n < 0 then issue [] .greaterThanEqual else good n.toNat
  | bad is => bad is

/-- An integer or nothing. -/
def optionalInteger : Value → Checked (Option Int)
  | .null => good none
  | v => some <$> integer v

/-- One of the words that `ofWord?` knows. -/
def word (ofWord? : String → Option α) : Value → Checked α
  | .text w => ((ofWord? w).map good).getD (issue [] .enum)
  | _ => issue [] .enum

/-- A text that a rule accepts, as the rule writes it. -/
def ruled (rule : String → Option α) (v : Value) : Checked α :=
  match text v with
  | good s => ((rule s).map good).getD (issue [] .valueError)
  | bad is => bad is

/-! ## Attributes of a record -/

/-- An attribute that must be present. -/
def required (attributes : List (String × Value)) (name : String) (read : Value → Checked α) :
    Checked α :=
  match Value.find? attributes name with
  | some v => (read v).within name
  | none => issue [name] .missing

/-- An attribute that has a default. -/
def optional (attributes : List (String × Value)) (name : String) (default : α)
    (read : Value → Checked α) : Checked α :=
  match Value.find? attributes name with
  | some v => (read v).within name
  | none => good default

end Checked

end DiagramSync
