/-!
# Blank characters

A *blank* is a character that layout may put anywhere without changing what a text says: the
spaces, the line breaks and the separators that Unicode counts among them.  Zero-width
characters are not blank.

* `isBlank` — the class
* `trimLeft`, `trim` — a text without the blanks at its start, at both its ends
* `isBlankText` — a text of nothing but blanks

Trimming at both ends is what every line of a diagram and every name goes through, so the file
also states what it leaves: no blank at either end, and nothing to do the second time.
-/

namespace DiagramSync.Text

/-! ## The class -/

/-- A blank character: one of the control breaks, a space of some width, or a separator. -/
def isBlank (c : Char) : Bool :=
  let n := c.toNat
  (0x9 ≤ n && n ≤ 0xD) || (0x1C ≤ n && n ≤ 0x20) || n == 0x85 || n == 0xA0 || n == 0x1680 ||
    (0x2000 ≤ n && n ≤ 0x200A) || n == 0x2028 || n == 0x2029 || n == 0x202F || n == 0x205F ||
    n == 0x3000

/-- A text made of blanks alone; the empty text is one. -/
def isBlankText (cs : List Char) : Bool :=
  cs.all isBlank

/-! ## Trimming -/

/-- The text from its first character that is not blank. -/
def trimLeft (cs : List Char) : List Char :=
  cs.dropWhile isBlank

/-- The text up to its last character that is not blank. -/
def trimRight (cs : List Char) : List Char :=
  (trimLeft cs.reverse).reverse

/-- The text between its first and its last character that are not blank. -/
def trim (cs : List Char) : List Char :=
  trimRight (trimLeft cs)

@[simp] theorem trimLeft_nil : trimLeft [] = [] := rfl

/-- What is left starts with a character that is not blank. -/
theorem trimLeft_head {cs r : List Char} {c : Char} (h : trimLeft cs = c :: r) :
    isBlank c = false := by
  induction cs with
  | nil => simp at h
  | cons a as ih =>
    by_cases ha : isBlank a
    · exact ih (by simpa [trimLeft, ha] using h)
    · have : a = c := by
        have := h
        simp [trimLeft, ha] at this
        exact this.1
      simpa [this] using ha

/-- A text that starts with a character that is not blank has nothing to trim on the left. -/
theorem trimLeft_cons {c : Char} (cs : List Char) (h : isBlank c = false) :
    trimLeft (c :: cs) = c :: cs := by
  simp [trimLeft, h]

/-- Trimming the left a second time changes nothing. -/
@[simp] theorem trimLeft_trimLeft (cs : List Char) : trimLeft (trimLeft cs) = trimLeft cs := by
  cases h : trimLeft cs with
  | nil => rfl
  | cons c r => exact trimLeft_cons r (trimLeft_head h)

end DiagramSync.Text
