import MachineArgs.Text.Numeral

/-!
# Decimal fractions

A decimal fraction is a whole number of digits times a power of ten; its sign plays no part here.
Two questions are asked of it, both about the nearest number with a binary exponent of eleven
bits and 53 bits of precision: whether that is zero (`roundsToZero`) and whether there is none
because the fraction is too large (`overflows`). Both are decided exactly on whole numbers. The
power of ten is formed only where the number of digits does not settle the matter, so that a huge
exponent costs nothing.
-/

namespace MachineArgs.Text

/-- The number `digits · 10 ^ exponent`. -/
structure Decimal where
  /-- The significant digits, read as a whole number. -/
  digits : Nat
  /-- The power of ten that scales them. -/
  exponent : Int := 0

namespace Decimal

/-- Text without a leading sign. -/
def unsigned : List Char → List Char
  | '+' :: cs => cs
  | '-' :: cs => cs
  | cs => cs

/-- The exponent part of a decimal, which may be missing. -/
def readExponent : List Char → Option Int
  | [] => some 0
  | 'e' :: cs => readInteger cs
  | 'E' :: cs => readInteger cs
  | _ => none

/-- The fraction digits that follow a whole part, and the text after them. -/
def takeFraction : List Char → List Char × List Char
  | '.' :: cs => (cs.takeWhile Char.isDigit, cs.dropWhile Char.isDigit)
  | cs => ([], cs)

/-- The parts of a written decimal. -/
structure Parts where
  /-- The digits in front of the point. -/
  whole : List Char
  /-- The digits behind it. -/
  fraction : List Char
  /-- The power of ten that scales both. -/
  exponent : Int

/-- Splits `12`, `-1.5`, `.5`, `5.` and each of these with an exponent such as `e-7`. -/
def split? (cs : List Char) : Option Parts :=
  let body := unsigned cs
  let whole := body.takeWhile Char.isDigit
  let (fraction, rest) := takeFraction (body.dropWhile Char.isDigit)
  if whole.isEmpty && fraction.isEmpty then none
  else (readExponent rest).map fun exponent ↦ { whole, fraction, exponent }

/-- The number that the parts stand for. -/
def ofParts (p : Parts) : Decimal where
  digits := Nat.ofDigitChars 10 (p.whole ++ p.fraction) 0
  exponent := p.exponent - p.fraction.length

/-- Reads a written decimal. -/
def read? (cs : List Char) : Option Decimal :=
  (split? cs).map ofParts

/-- The power of ten just above the number: it lies in `[10 ^ (m - 1), 10 ^ m)`. -/
def magnitude (d : Decimal) : Int :=
  (Nat.toDigits 10 d.digits).length + d.exponent

/-- The number as a numerator over a positive denominator. -/
def ratio (d : Decimal) : Nat × Nat :=
  (d.digits * Nat.pow 10 d.exponent.toNat, Nat.pow 10 (-d.exponent).toNat)

/-- Whether the number is at most half the least positive binary number, `2 ^ -1075`. A number
exactly halfway goes to zero, whose last bit is even. -/
def roundsToZero (d : Decimal) : Bool :=
  d.digits == 0 || d.magnitude ≤ -330 ||
    (d.magnitude ≤ -300 && d.ratio.1 * capacity 1075 ≤ d.ratio.2)

/-- Whether the number reaches the middle between the greatest binary number and the next power
of two, `2 ^ 1024 - 2 ^ 970`. -/
def overflows (d : Decimal) : Bool :=
  d.digits != 0 &&
    (310 < d.magnitude ||
      (300 ≤ d.magnitude && (capacity 1024 - capacity 970) * d.ratio.2 ≤ d.ratio.1))

end Decimal

end MachineArgs.Text
