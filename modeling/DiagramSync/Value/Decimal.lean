/-!
# Decimal numbers

A number with a decimal point is kept as the nearest float, and a float is an integer times a power
of two.  Whether it is whole, and which decimal says it in the fewest digits, is decided on these
integers, where nothing is rounded.

* `Binary`, `Binary.ofFloat` — a finite float as an integer times a power of two
* `Binary.whole?` — the integer that it is, if it is one
* `Digits` — a decimal as its digits and the place of its point
* `Binary.shortest` — the fewest digits that are read back as the same float
* `decimalText` — a finite float as a text
-/

namespace DiagramSync

/-! ## Floats as integers -/

/-- A finite float, without its sign, as an integer times a power of two. -/
structure Binary where
  /-- The integer. -/
  mantissa : Nat
  /-- The power of two. -/
  exponent : Int
  deriving Repr, DecidableEq

namespace Binary

/-- The parts of a finite float.  The least power of two stands for two fields: there the leading
digit is not implied. -/
def ofFloat (x : Float) : Binary :=
  let bits := x.toBits.toNat
  let fraction := bits % 0x10000000000000
  let field := bits / 0x10000000000000 % 0x800
  if field = 0 then
    { mantissa := fraction, exponent := -1074 }
  else
    { mantissa := 0x10000000000000 + fraction, exponent := (field : Int) - 1075 }

/-- The number as a fraction: what is above the line. -/
def numerator (b : Binary) : Nat :=
  b.mantissa * Nat.pow 2 b.exponent.toNat

/-- The number as a fraction: what is below the line. -/
def denominator (b : Binary) : Nat :=
  Nat.pow 2 (-b.exponent).toNat

/-- The natural number that it is, if it is one. -/
def whole? (b : Binary) : Option Nat :=
  if b.numerator % b.denominator = 0 then some (b.numerator / b.denominator) else none

end Binary

/-- A minus sign stands in front of the float, be it a zero. -/
def isBelowZero (x : Float) : Bool :=
  0x8000000000000000 ≤ x.toBits.toNat

/-- The integer that a finite float is, if it is one. -/
def wholeOf? (x : Float) : Option Int :=
  (Binary.ofFloat x).whole?.map fun n => if isBelowZero x then -(n : Int) else n

/-! ## The fewest digits -/

/-- A decimal: `0.d₁d₂…` times ten to the power of `point`, without zeros at either end of the
digits. -/
structure Digits where
  /-- The digits that count. -/
  digits : List Char
  /-- The place of the point, counted from the left of the first digit. -/
  point : Int
  deriving Repr, DecidableEq

/-- The decimal `n * 10 ^ power`. -/
def Digits.ofScaled (n : Nat) (power : Int) : Digits :=
  let all := Nat.toDigits 10 n
  { digits := (all.reverse.dropWhile (· == '0')).reverse, point := all.length + power }

/-- How many decimal digits a natural number has. -/
def digitCount (n : Nat) : Nat :=
  (Nat.toDigits 10 n).length

/-- The float that is nearest to `n * 10 ^ power`. -/
def nearestFloat (n : Nat) (power : Int) : Float :=
  Float.ofScientific n (power < 0) power.natAbs

namespace Binary

/-- The place of the decimal point of a number that is not zero, counted from the left of its first
digit. -/
def point (b : Binary) : Int :=
  if b.denominator ≤ b.numerator then
    digitCount (b.numerator / b.denominator)
  else
    1 - (digitCount ((b.denominator - 1) / b.numerator) : Int)

/-- The decimal with `count` digits that is nearest to the number among those that are read back as
it.  Only the two neighbours of the number come into question; of two at one distance the even one
is taken. -/
def decimal? (b : Binary) (count : Nat) : Option Digits :=
  let power := b.point - count
  let above := b.numerator * Nat.pow 10 (-power).toNat
  let below := b.denominator * Nat.pow 10 power.toNat
  let low := above / below
  let reads (n : Nat) : Bool := ofFloat (nearestFloat n power) == b
  let lowIsNearer : Bool :=
    let rest := above % below
    2 * rest < below || (2 * rest == below && low % 2 == 0)
  let order := if lowIsNearer then [low, low + 1] else [low + 1, low]
  (order.find? reads).map fun n => Digits.ofScaled n power

/-- The fewest digits that are read back as the number.  Seventeen always are enough. -/
def shortest (b : Binary) : Digits :=
  if b.mantissa = 0 then
    { digits := [], point := 0 }
  else
    (((List.range 17).findSome? fun i => b.decimal? (i + 1))).getD
      (Digits.ofScaled (b.numerator * Nat.pow 5 (-b.exponent).toNat) (-(-b.exponent).toNat))

end Binary

/-! ## Texts -/

/-- The number of zeros. -/
def zeros (n : Nat) : List Char :=
  List.replicate n '0'

/-- Ten to that power, with a sign and two digits at least. -/
def powerText (e : Int) : List Char :=
  let digits := Nat.toDigits 10 e.natAbs
  'e' :: (if e < 0 then '-' else '+') :: (zeros (2 - digits.length) ++ digits)

/-- The digits around a point, with one digit at least on either side of it.  A point that is far
from the first digit is brought next to it by a power of ten. -/
def Digits.shown (d : Digits) : List Char :=
  if d.digits.isEmpty then
    ['0', '.', '0']
  else if d.point ≤ -4 || 16 < d.point then
    let rest := d.digits.drop 1
    d.digits.take 1 ++ (if rest.isEmpty then [] else '.' :: rest) ++ powerText (d.point - 1)
  else if d.point ≤ 0 then
    '0' :: '.' :: (zeros d.point.natAbs ++ d.digits)
  else
    let places := d.digits.drop d.point.toNat
    d.digits.take d.point.toNat ++ zeros (d.point.toNat - d.digits.length) ++
      '.' :: (if places.isEmpty then ['0'] else places)

/-- A finite float in the fewest digits that are read back as it. -/
def decimalText (x : Float) : String :=
  String.ofList ((if isBelowZero x then ['-'] else []) ++ (Binary.ofFloat x).shortest.shown)

end DiagramSync
