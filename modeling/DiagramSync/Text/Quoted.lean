import DiagramSync.Text.Printable

/-!
# Texts between quotes

A message that quotes a text shows it on one line, whatever is in it: between quotes, with a
backslash before a quote or a backslash, and every character that shows nothing by its number.

* `hexDigits` — a number in a fixed count of hexadecimal digits
* `shorthand?`, `escapedChar` — a character between quotes
* `quoted` — a text between quotes
* `bracketed` — several texts, already written, between brackets
-/

namespace DiagramSync.Text

/-- The last `count` hexadecimal digits of a number, in lower case. -/
def hexDigits : Nat → Nat → List Char
  | 0, _ => []
  | count + 1, n => hexDigits count (n / 16) ++ [Nat.digitChar (n % 16)]

/-- The number of a character that shows nothing, in as few digits as hold it. -/
def escapedNumber (n : Nat) : List Char :=
  if n < 0x100 then '\\' :: 'x' :: hexDigits 2 n
  else if n < 0x10000 then '\\' :: 'u' :: hexDigits 4 n
  else '\\' :: 'U' :: hexDigits 8 n

/-- The letter that, after a backslash, stands for a break or a tab. -/
def shorthand? : Char → Option Char
  | '\t' => some 't'
  | '\n' => some 'n'
  | '\r' => some 'r'
  | _ => none

/-- A character as it stands between those quotes. -/
def escapedChar (quote c : Char) : List Char :=
  if c = quote || c = '\\' then
    ['\\', c]
  else
    match shorthand? c with
    | some letter => ['\\', letter]
    | none => if isPrintable c then [c] else escapedNumber c.toNat

/-- A text between single quotes, or between double ones if only that spares the quotes in it. -/
def quoted (s : String) : String :=
  let cs := s.toList
  let quote := if cs.contains '\x27' && !cs.contains '"' then '"' else '\x27'
  String.ofList (quote :: cs.flatMap (escapedChar quote) ++ [quote])

/-- Written items between brackets. -/
def bracketed (items : List String) : String :=
  "[" ++ ", ".intercalate items ++ "]"

end DiagramSync.Text
