import DiagramSync.Text.Quoted
import DiagramSync.Value
import DiagramSync.Value.Decimal

/-!
# Loose values as texts

How a loose value reads where it is shown as it is: numbers in digits, lists and records between
brackets and braces, and the texts in them between quotes.

* `Value.shown` — any loose value
* `Value.plain` — the same, but for a text without quotes
* `Value.whole?` — the integer that a loose value is
-/

namespace DiagramSync

namespace Value

mutual

/-- A loose value as it is. -/
def shown : Value → String
  | null => "None"
  | flag b => if b then "True" else "False"
  | whole n => toString n
  | decimal x => decimalText x
  | text s => Text.quoted s
  | list xs => Text.bracketed (shownItems xs)
  | record as => "\x7b" ++ ", ".intercalate (shownAttributes as) ++ "\x7d"

/-- The items of a list as they are. -/
def shownItems : List Value → List String
  | [] => []
  | v :: vs => shown v :: shownItems vs

/-- The attributes of a record as they are. -/
def shownAttributes : List (String × Value) → List String
  | [] => []
  | (name, v) :: as => (Text.quoted name ++ ": " ++ shown v) :: shownAttributes as

end

/-- A loose value as it is, a text without quotes. -/
def plain : Value → String
  | text s => s
  | v => v.shown

/-- The integer that a number is, if it is whole; a flag counts as one or zero. -/
def whole? : Value → Option Int
  | whole n => some n
  | flag b => some (if b then 1 else 0)
  | decimal x => wholeOf? x
  | _ => none

end Value

end DiagramSync
