import DiagramSync.Diagram.Resolution
import DiagramSync.Diagram.Scan
import DiagramSync.Value

/-!
# Reading a diagram

A text that starts as a diagram is scanned; then its relationship lines are resolved in order, so
that a line may relate entities that are declared further down.

* `resolveLine`, `resolveLines` — linking the fields that the relationship lines speak of
* `parse` — a text
* `parseLoose` — a loose value; only a text can be a diagram
-/

namespace DiagramSync

/-! ## Relationship lines -/

/-- The entities in which the one of that name is replaced. -/
def replaceNamed (name : String) (replacement : Entity) (es : List Entity) : List Entity :=
  es.map fun e => if e.name == name then replacement else e

/-- The entity of that name. -/
def entityNamed? (es : List Entity) (name : String) : Option Entity :=
  es.find? fun e => e.name == name

/-- The entities after the relationship on line `n`, and what there is to warn about. -/
def resolveLine (resolver : Resolver) (es : List Entity) (n : Nat) (r : Relationship) :
    Except String (List Entity × List Warning) :=
  match entityNamed? es r.source, entityNamed? es r.target with
  | none, _ => .ok (es, [.unknownEntity n r.source])
  | some _, none => .ok (es, [.unknownEntity n r.target])
  | some source, some target => do
    match ← resolver.link source target r with
    | some (linked, _) => return (replaceNamed source.name linked es, [])
    | none => return (es, [.noForeignKey n source.name target.name])

/-- The entities after all relationship lines, and the warnings in order. -/
def resolveLines (resolver : Resolver) :
    List Entity → List (Nat × Relationship) → Except String (List Entity × List Warning)
  | es, [] => .ok (es, [])
  | es, (n, r) :: rest => do
    let (es, ws) ← resolveLine resolver es n r
    let (es, ws') ← resolveLines resolver es rest
    return (es, ws ++ ws')

/-! ## Texts -/

/-- Reads a text, and says which supply of ids is left.  Foreign keys that stay unlinked have the
cardinality `unlinked`. -/
def parse (resolver : Resolver) (unlinked : Cardinality) (supply : Supply) (text : String) :
    ParseOutcome × Supply :=
  if hasHeader text.toList then
    let s := scan unlinked supply text.toList
    let outcome :=
      match resolveLines resolver s.entities s.relationships with
      | .error reason => .rejected (.unexpected reason) []
      | .ok (es, ws) =>
        if es.isEmpty then
          .rejected .noEntities (s.warnings ++ ws)
        else
          .accepted es (s.relationships.map (·.2)) (s.warnings ++ ws)
    (outcome, s.supply)
  else
    (.rejected .missingHeader [], supply)

/-- Whether a loose value is a text that starts as a diagram does. -/
def isDiagram : Value → Bool
  | .text s => hasHeader s.toList
  | _ => false

/-- Reads a loose value, of which only a text can be a diagram. -/
def parseLoose (resolver : Resolver) (unlinked : Cardinality) (supply : Supply) (v : Value) :
    ParseOutcome × Supply :=
  match v with
  | .text s => parse resolver unlinked supply s
  | _ => (.rejected .missingHeader [], supply)

end DiagramSync
