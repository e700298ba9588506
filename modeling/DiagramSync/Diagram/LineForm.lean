import DiagramSync.Diagram.Symbol
import DiagramSync.Text.Blank
import DiagramSync.Text.Case
import DiagramSync.Text.Search
import DiagramSync.Text.WordChar

/-!
# The forms of a diagram line

A diagram is read line by line, and each line is one of a few forms.  The readers here take a line
that has been trimmed and say which form it has and what its parts are, as they are written.

* `name?` — a name in quotes, or a run of name characters
* `blockOpening?` — `name {` or `name { }`
* `bareEntity?` — a name alone
* `relationship?` — `name symbol name`, perhaps with `: label`
* `field?` — `type name`, markers, perhaps a description
* `withoutSymbols` — a text without the relationship symbols in it

An unquoted name may hold the characters `o`, `-` and `.`, which symbols are made of too.  Where a
symbol follows a name without a blank, the name is the longest one that leaves a relationship.
-/

namespace DiagramSync.LineForm

open Text

/-! ## Names -/

/-- A character of an unquoted name. -/
def isNameChar (c : Char) : Bool :=
  !isBlank c && c != '"' && c != '{' && c != '}' && c != '|' && c != ':'

/-- A character other than the double quote. -/
def isUnquote (c : Char) : Bool :=
  c != '"'

/-- The text between a quote at the start and the next one, and what follows. -/
def quoted? : List Char → Option (List Char × List Char)
  | '"' :: cs =>
    match cs.dropWhile isUnquote with
    | _ :: rest => some (cs.takeWhile isUnquote, rest)
    | [] => none
  | _ => none

/-- A name at the start, and what follows it.  No name is empty. -/
def name? : List Char → Option (List Char × List Char)
  | '"' :: cs =>
    match quoted? ('"' :: cs) with
    | some ([], _) => none
    | found => found
  | cs =>
    match cs.takeWhile isNameChar with
    | [] => none
    | name => some (name, cs.dropWhile isNameChar)

/-! ## Entities -/

/-- The name that a block opening declares, and whether the block is closed on the same line. -/
def blockOpening? (line : List Char) : Option (List Char × Bool) := do
  let (name, rest) ← name? line
  match trimLeft rest with
  | '{' :: inner =>
    match trimLeft inner with
    | [] => some (name, false)
    | ['}'] => some (name, true)
    | _ => none
  | _ => none

/-- An unaccented letter or the underscore. -/
def isLeadChar (c : Char) : Bool :=
  c.isAlpha || c == '_'

/-- The name on a line that holds a name and nothing else.  Unquoted, it starts with a letter or
an underscore and goes on with word characters and hyphens. -/
def bareEntity? : List Char → Option (List Char)
  | '"' :: cs =>
    match name? ('"' :: cs) with
    | some (name, []) => some name
    | _ => none
  | c :: cs =>
    if isLeadChar c && cs.all (fun d => isWordChar d || d == '-') then some (c :: cs) else none
  | [] => none

/-! ## Relationships -/

/-- A character that an end marker is made of. -/
def isMarkerChar (c : Char) : Bool :=
  c == '|' || c == 'o' || c == '}' || c == '{'

/-- The six characters at the start, if they are drawn like a symbol, and what follows.  Whether
the markers mean anything is not asked here. -/
def symbol? : List Char → Option (List Char × List Char)
  | a :: b :: c :: d :: e :: f :: rest =>
    if isMarkerChar a && isMarkerChar b && (LineStyle.ofDashes? c d).isSome &&
        isMarkerChar e && isMarkerChar f then
      some ([a, b, c, d, e, f], rest)
    else
      none
  | _ => none

/-- The parts of a relationship line after its first name, as they are written. -/
structure RelationshipTail where
  /-- The symbol. -/
  symbol : List Char
  /-- The name on the right of the symbol. -/
  target : List Char
  /-- The label, if there is one. -/
  label : Option (List Char)
  deriving Repr, DecidableEq

/-- The parts of a relationship line as they are written. -/
structure RelationshipParts extends RelationshipTail where
  /-- The name on the left of the symbol. -/
  source : List Char
  deriving Repr, DecidableEq

/-- The label after a colon: what stands between quotes, if nothing else follows, or else
everything there is. -/
def labelAfterColon (cs : List Char) : Option (List Char) :=
  let plain := if cs.isEmpty then none else some (trimRight cs)
  match quoted? cs with
  | some (label, rest) => if isBlankText rest then some label else plain
  | none => plain

/-- The label in what follows the second name; `none` if something else follows it. -/
def label? (rest : List Char) : Option (Option (List Char)) :=
  match trimLeft rest with
  | [] => some none
  | ':' :: cs => some (labelAfterColon (trimLeft cs))
  | _ => none

/-- The part of a relationship line from its symbol on. -/
def fromSymbol? (cs : List Char) : Option RelationshipTail := do
  let (symbol, rest) ← symbol? cs
  let (target, rest) ← name? (trimLeft rest)
  let label ← label? rest
  return { symbol, target, label }

/-- An unquoted name at the start, and the part of a relationship line from its symbol on.  A longer
name goes before a shorter one; blanks may follow a name only where it ends. -/
def fromName? : List Char → Option (List Char × RelationshipTail)
  | [] => none
  | c :: cs =>
    if isNameChar c then
      match fromName? cs with
      | some (name, tail) => some (c :: name, tail)
      | none => (fromSymbol? (trimLeft cs)).map fun tail => ([c], tail)
    else
      none

/-- The parts of a relationship line. -/
def relationship? : List Char → Option RelationshipParts
  | '"' :: cs => do
    let (source, rest) ← name? ('"' :: cs)
    let tail ← fromSymbol? (trimLeft rest)
    return { tail with source }
  | cs => do
    let (source, tail) ← fromName? cs
    return { tail with source }

/-! ## Fields -/

/-- The parts of a field line as they are written. -/
structure FieldParts where
  /-- The type token. -/
  type : List Char
  /-- The name token. -/
  name : List Char
  /-- The tokens after the name. -/
  markers : List (List Char)
  /-- The text in quotes at the end. -/
  description : Option (List Char)
  deriving Repr, DecidableEq

/-- A character of a type or name token of a field. -/
def isTokenChar (c : Char) : Bool :=
  !isBlank c && c != '"'

/-- Splits the end of a field line into the part before the description and the description: the
text between the last two quotes, if the line ends with the last one. -/
def description? (rest : List Char) : List Char × Option (List Char) :=
  match trimLeft rest.reverse with
  | '"' :: back =>
    match back.dropWhile isUnquote with
    | _ :: before => (before.reverse, some (back.takeWhile isUnquote).reverse)
    | [] => (rest, none)
  | _ => (rest, none)

/-- A character between two markers. -/
def isMarkerSeparator (c : Char) : Bool :=
  isBlank c || c == ','

/-- The parts of a field line. -/
def field? : List Char → Option FieldParts
  | [] => none
  | c :: cs =>
    if isLeadChar c then
      let rest := trimLeft (cs.dropWhile isTokenChar)
      match rest.takeWhile isTokenChar with
      | [] => none
      | name =>
        let (before, description) := description? (rest.dropWhile isTokenChar)
        some
          { type := c :: cs.takeWhile isTokenChar, name
            markers := words isMarkerSeparator before, description }
    else
      none

/-- Whether one of the markers is the given one, in any case of letters. -/
def FieldParts.hasMarker (parts : FieldParts) (marker : String) : Bool :=
  parts.markers.any fun m => upper m == marker.toList

/-! ## Symbols in a text -/

/-- The text without the relationship symbols in it, found from left to right. -/
def withoutSymbols : List Char → List Char
  | a :: b :: c :: d :: e :: f :: rest =>
    if (symbol? [a, b, c, d, e, f]).isSome then
      withoutSymbols rest
    else
      a :: withoutSymbols (b :: c :: d :: e :: f :: rest)
  | cs => cs

end DiagramSync.LineForm
