import DiagramSync.Text.Blank

/-!
# Integers in texts

An integer that was typed by hand, or comes from an environment, need not be written in the plain
way.  Blanks may stand around it, a sign and zeros in front of it, underscores between its digits,
and a fractional part of zeros behind it.

* `Numeral` — an integer in the plain way: a sign, and digits without zeros in front
* `bareNumber` — a number without what says nothing
* `Numeral.read?` — the integer that a text says
* `Numeral.value`, `Numeral.length` — the integer, and how many characters it takes
-/

namespace DiagramSync.Text

/-! ## What says nothing -/

/-- A blank around a number.  The four information separators are not among them. -/
def isNumberBlank (c : Char) : Bool :=
  isBlank c && !(0x1C ≤ c.toNat && c.toNat ≤ 0x1F)

/-- The number without the blanks at its ends. -/
def trimNumber (cs : List Char) : List Char :=
  ((cs.dropWhile isNumberBlank).reverse.dropWhile isNumberBlank).reverse

/-- A zero, or an underscore among zeros. -/
def isZeroOrUnderscore (c : Char) : Bool :=
  c == '0' || c == '_'

/-- The number without the zeros in front of it, and without the underscores after these.  Where
nothing or only a fractional part follows them, the last one stays. -/
def withoutLeadingZeros : List Char → List Char
  | '0' :: cs =>
    let zeros := '0' :: cs.takeWhile isZeroOrUnderscore
    match cs.dropWhile isZeroOrUnderscore with
    | [] => zeros.getLast?.toList
    | '.' :: rest => zeros.getLast?.toList ++ '.' :: rest
    | rest => rest
  | cs => cs

/-- The number without a fractional part of zeros, of which there must be one at least. -/
def withoutZeroFraction (cs : List Char) : List Char :=
  match cs.dropWhile (· != '.') with
  | '.' :: d :: ds => if (d :: ds).all (· == '0') then cs.takeWhile (· != '.') else cs
  | _ => cs

/-- Every underscore stands between two digits. -/
def groupsDigits (cs : List Char) : Bool :=
  cs.head? != some '_' && cs.getLast? != some '_' &&
    (cs.zip cs.tail).all fun p => (p.1 != '_' || p.2.isDigit) && (p.2 != '_' || p.1.isDigit)

/-- The number without the underscores that group its digits, if they are set right. -/
def withoutUnderscores (cs : List Char) : List Char :=
  if groupsDigits cs then cs.filter (· != '_') else cs

/-- A number without what says nothing. -/
def bareNumber (cs : List Char) : List Char :=
  withoutUnderscores (withoutZeroFraction (withoutLeadingZeros cs))

/-! ## Numerals -/

/-- Digits, of which the first is a zero only if it is the only one. -/
def isPlainDigits (cs : List Char) : Bool :=
  !cs.isEmpty && cs.all Char.isDigit && (cs.head? != some '0' || cs.length == 1)

/-- An integer as it is written in the plain way. -/
structure Numeral where
  /-- A minus sign stands in front. -/
  isNegative : Bool
  /-- The digits. -/
  digits : List Char
  deriving Repr, DecidableEq

namespace Numeral

/-- The numeral with that sign and those digits, if they are plain. -/
def ofDigits? (isNegative : Bool) (digits : List Char) : Option Numeral :=
  if isPlainDigits digits then some { isNegative, digits } else none

/-- The numeral that a bare number says; a minus sign may still be in front of its digits. -/
def ofBare? : List Char → Option Numeral
  | '-' :: digits => ofDigits? true digits
  | digits => ofDigits? false digits

/-- The numeral that a text says.  The minus sign stands before the zeros in front or after them,
and not in both places. -/
def read? (cs : List Char) : Option Numeral :=
  match trimNumber cs with
  | '-' :: rest => ofDigits? true (bareNumber rest)
  | '+' :: '-' :: _ => none
  | '+' :: rest => ofBare? (bareNumber rest)
  | rest => ofBare? (bareNumber rest)

/-- The integer. -/
def value (n : Numeral) : Int :=
  let size := n.digits.foldl (fun size c => 10 * size + (c.toNat - '0'.toNat)) 0
  if n.isNegative then -(size : Int) else size

/-- How many characters the numeral takes. -/
def length (n : Numeral) : Nat :=
  n.digits.length + if n.isNegative then 1 else 0

end Numeral

end DiagramSync.Text
