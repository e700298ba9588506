import DiagramSync.Model.Cardinality
import DiagramSync.Value

/-!
# Crow's foot symbols

A relationship symbol is six characters: an end marker, a line, an end marker.  Either marker may
be written in both orientations, so that several symbols mean the same cardinality; writing uses
one of them.

* `Multiplicity.ofMarker?` — the end markers
* `LineStyle`, `LineStyle.ofDashes?` — solid and dashed lines
* `Symbol.read?` — what a symbol means
* `Cardinality.symbol` — the symbol that is written for a cardinality
* `Cardinality.ofLoose` — the cardinality that is written for a loose value
-/

namespace DiagramSync

/-- The end that a marker stands for: exactly one or zero or one, one or more or zero or more. -/
def Multiplicity.ofMarker? : Char → Char → Option Multiplicity
  | '|', '|' | '|', 'o' | 'o', '|' => some .one
  | '}', '|' | '|', '{' | '}', 'o' | 'o', '{' => some .many
  | _, _ => none

/-- The line between the markers. -/
inductive LineStyle where
  /-- An identifying relationship. -/
  | solid
  /-- A relationship that does not identify. -/
  | dashed
  deriving Repr, DecidableEq

/-- The line style that two characters draw. -/
def LineStyle.ofDashes? : Char → Char → Option LineStyle
  | '-', '-' => some .solid
  | '.', '.' => some .dashed
  | _, _ => none

/-- What a symbol means: the cardinality, and how its line is drawn. -/
def Symbol.read? : List Char → Option (Cardinality × LineStyle)
  | [a, b, c, d, e, f] => do
    let near ← Multiplicity.ofMarker? a b
    let style ← LineStyle.ofDashes? c d
    let far ← Multiplicity.ofMarker? e f
    return (.between near far, style)
  | _ => none

namespace Cardinality

/-- The symbol that is written for a cardinality. -/
def symbol : Cardinality → String
  | oneToOne => "||--||"
  | oneToMany => "||--o\x7b"
  | manyToOne => "\x7do--||"
  | manyToMany => "\x7do--o\x7b"

/-- The written symbol is read back as the same cardinality, with a solid line. -/
theorem read?_symbol (c : Cardinality) : Symbol.read? c.symbol.toList = some (c, .solid) := by
  cases c <;> rfl

/-- The cardinality that is written for a loose value; a value that names none is written as
one-to-many. -/
def ofLoose : Value → Cardinality
  | .text w => (ofWord? w).getD oneToMany
  | _ => oneToMany

end Cardinality

end DiagramSync
