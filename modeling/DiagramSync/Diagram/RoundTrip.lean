import DiagramSync.Diagram.Generate
import DiagramSync.Diagram.Parse

/-!
# Reading and writing in turn

A text that is read and written again has the layout that writing gives; read and written once more
it should stay as it is.

* `RoundTrip`, `RoundTrip.isStable` — what came of reading and writing twice
* `roundTrip` — reading and writing twice
-/

namespace DiagramSync

/-- What came of reading and writing a text twice. -/
structure RoundTrip where
  /-- The texts that were written; fewer than two if a reading failed. -/
  texts : List String
  /-- The outcome of the last reading. -/
  last : ParseOutcome

/-- Both times the same text was written. -/
def RoundTrip.isStable (r : RoundTrip) : Bool :=
  match r.texts with
  | [first, second] => first == second
  | _ => false

/-- Reads a loose value and writes what was read, twice or until a reading fails. -/
def roundTrip (resolver : Resolver) (unlinked : Cardinality) (supply : Supply) (v : Value) :
    RoundTrip :=
  let (first, supply) := parseLoose resolver unlinked supply v
  if first.isAccepted then
    let text := generate first.entities
    let (second, _) := parse resolver unlinked supply text
    if second.isAccepted then ⟨[text, generate second.entities], second⟩ else ⟨[text], second⟩
  else
    ⟨[], first⟩

end DiagramSync
