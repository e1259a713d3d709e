import DefUse.Decimal.Shortest

/-!
# Decimal notation

The digits of a decimal with a point between them, or with one digit before the point and an
exponent.
-/

namespace DefUse.Decimal.Expansion

def digitChars (number : Expansion) : List Char := Nat.toDigits 10 number.digits

/-- The exponent of the first digit. -/
def leading (number : Expansion) : Int := number.exponent + number.digitChars.length - 1

/-- All digits in their places. A whole number keeps one zero after its point. -/
def positional (number : Expansion) : List Char :=
  if 0 ≤ number.exponent then
    number.digitChars ++ List.replicate number.exponent.toNat '0' ++ ['.', '0']
  else if 0 ≤ number.leading then
    let whole := number.leading.toNat + 1
    number.digitChars.take whole ++ ['.'] ++ number.digitChars.drop whole
  else ['0', '.'] ++ List.replicate (-number.leading - 1).toNat '0' ++ number.digitChars

/-- One digit, the others after a point if there are any, and the exponent with its sign. -/
def scientific (number : Expansion) : List Char :=
  let fraction := if number.digitChars.length = 1 then [] else '.' :: number.digitChars.drop 1
  let sign := if number.leading < 0 then '-' else '+'
  number.digitChars.take 1 ++ fraction ++ ['e', sign] ++ Nat.toDigits 10 number.leading.natAbs

end DefUse.Decimal.Expansion
