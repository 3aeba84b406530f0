import ResourceKernel.Text.Decimal

/-!
# Numerals

Decimal numbers as they are written, and whether they are too large for a floating point number
of 64 bits.
-/

namespace ResourceKernel.Text

/-- A number as written: whole digits, digits after the point and exponent. -/
structure Numeral where
  negative : Bool
  whole : List Char
  fraction : Option (List Char)
  exponent : Option Int

namespace Numeral

/-- The least natural number that rounds to an infinite floating point number. -/
def tooLarge : Nat := (1 <<< 1024) - (1 <<< 970)

/-- Whether the number is finite after rounding to a floating point number. -/
def isFinite (w : Numeral) : Bool :=
  let fraction := w.fraction.getD []
  let digits := (w.whole ++ fraction).dropWhile (· == '0')
  let e := w.exponent.getD 0 - fraction.length
  let places := digits.length + e
  if digits.isEmpty || places < 309 then true
  else if 310 ≤ places then false
  else
    let wholePart := (digits ++ List.replicate 309 '0').take 309
    decide (Decimal.valueOf wholePart < tooLarge)

end Numeral

def readDigits (cs : List Char) : List Char × List Char :=
  (cs.takeWhile Decimal.isDigit, cs.dropWhile Decimal.isDigit)

end ResourceKernel.Text
