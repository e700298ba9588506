import DiagramSync.Diagram.LineForm
import DiagramSync.Diagram.Parse

/-!
# Hints for mending a diagram

What to suggest to somebody whose diagram was rejected or warned about.  A hint is found by what a
message says; one more comes from counting the braces that are no part of a symbol.

* `Hint`, `Hint.text` — the hints and their wording
* `Hint.ofMessage?` — the hint for a message
* `bracesMatch` — as many opening as closing braces
* `hints` — the hints for a text and the messages about it, each once, at most five
-/

namespace DiagramSync

/-- Something to try. -/
inductive Hint where
  | startWithHeader
  | declareEntity
  | closeBlocks
  | checkEntityNames
  | markForeignKey
  | matchBraces
  deriving Repr, DecidableEq

namespace Hint

/-- The wording of a hint. -/
def text : Hint → String
  | startWithHeader => "Start the diagram with a 'erDiagram' line"
  | declareEntity => "Declare an entity block such as: \"Users\" \x7b int id PK \x7d"
  | closeBlocks => "Close every entity block with a line holding only '\x7d'"
  | checkEntityNames => "Check relationship entity names against the declared blocks"
  | markForeignKey => "Mark the referencing field with FK, e.g.: int user_id FK"
  | matchBraces => "Check for unmatched curly braces around entity blocks"

/-- The phrases that messages are recognised by, in the order in which they are looked for. -/
def phrases : List (String × Hint) :=
  [(header, startWithHeader), ("must start with", startWithHeader),
   ("no entity blocks", declareEntity), ("never closed", closeBlocks),
   ("unknown entity", checkEntityNames), ("no FK field", markForeignKey)]

/-- The hint for a message: that of the first phrase that occurs in it. -/
def ofMessage? (message : String) : Option Hint :=
  (phrases.find? fun p => Text.contains p.1.toList message.toList).map (·.2)

end Hint

/-- As many opening as closing braces, relationship symbols left out. -/
def bracesMatch (text : List Char) : Bool :=
  let plain := LineForm.withoutSymbols text
  plain.count '{' == plain.count '}'

/-- The items of a list without those that have occurred before. -/
def firstOccurrences [BEq α] (seen : List α) : List α → List α
  | [] => []
  | x :: xs =>
    if seen.contains x then firstOccurrences seen xs else x :: firstOccurrences (x :: seen) xs

/-- The hints for a text and the messages about it, each once and at most five. -/
def hints (text : List Char) (messages : List String) : List Hint :=
  let fromMessages := messages.filterMap Hint.ofMessage?
  let fromBraces := if bracesMatch text then [] else [.matchBraces]
  (firstOccurrences [] (fromMessages ++ fromBraces)).take 5

/-- Reads a text and gives what there is to tell about it, with the hints for that. -/
def diagnose (unlinked : Cardinality) (supply : Supply) (text : String) :
    List String × List Hint :=
  let messages := (parse .byName unlinked supply text).1.messages
  (messages, hints text.toList messages)

end DiagramSync
