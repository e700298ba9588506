import DiagramSync.Text.Blank

/-!
# Line breaks

Two notions of where a line ends are in play, and they differ on purpose.  A *line* of a diagram
ends at any of the characters that Unicode or a terminal treats as the end of one; a name or a
remark that is about to be written is only guarded against the carriage return and the line feed.

* `isLineBreak`, `lines` — the lines of a text; the pair CR LF is one break, and a break at the
  very end opens no further line
* `joinBreaks` — every CR LF, CR or LF replaced by one space
-/

namespace DiagramSync.Text

/-- A character that ends a line. -/
def isLineBreak (c : Char) : Bool :=
  let n := c.toNat
  (0xA ≤ n && n ≤ 0xD) || (0x1C ≤ n && n ≤ 0x1E) || n == 0x85 || n == 0x2028 || n == 0x2029

/-- The lines of a text, without their breaks. -/
def lines : List Char → List (List Char)
  | [] => []
  | '\r' :: '\n' :: cs => [] :: lines cs
  | c :: cs =>
    if isLineBreak c then
      [] :: lines cs
    else
      match lines cs with
      | [] => [[c]]
      | l :: ls => (c :: l) :: ls

/-- The text on one line as far as carriage returns and line feeds go: each of them, and each
pair CR LF, becomes a space. -/
def joinBreaks : List Char → List Char
  | [] => []
  | '\r' :: '\n' :: cs => ' ' :: joinBreaks cs
  | c :: cs => (if c = '\r' ∨ c = '\n' then ' ' else c) :: joinBreaks cs

end DiagramSync.Text
