/-!
# Shortest decimals of binary numbers

A positive binary number is a significand times a power of two. Its shortest decimal is the one with
the fewest digits among the decimals that round to it, and the nearest of those; of two equally near
ones the even one is taken.
-/

namespace DefUse.Decimal

/-- The number `significand * 2 ^ exponent`. On a boundary the gap to the next smaller number is half
as wide as the gap to the next larger one. -/
structure Binary where
  significand : Nat
  exponent : Int
  onBoundary : Bool
deriving DecidableEq

/-- The number whose magnitude a word in double precision holds. -/
def Binary.ofBits (bits : UInt64) : Binary :=
  let fraction : Nat := bits.toNat % Nat.pow 2 52
  let field : Nat := bits.toNat / Nat.pow 2 52 % Nat.pow 2 11
  if field = 0 then ⟨fraction, -1074, false⟩
  else ⟨Nat.pow 2 52 + fraction, (field : Int) - 1075, fraction = 0 && 1 < field⟩

/-- The number `digits * 10 ^ exponent`. -/
structure Expansion where
  digits : Nat
  exponent : Int
deriving DecidableEq

namespace Binary

/-- Factor of a decimal with the exponent `power` when it is compared with quarters of the number. -/
def decimalFactor (number : Binary) (power : Int) : Nat :=
  Nat.pow 10 power.toNat * Nat.pow 2 (2 - number.exponent).toNat

/-- Factor of a count of quarters when it is compared with a decimal with the exponent `power`. -/
def quarterFactor (number : Binary) (power : Int) : Nat :=
  Nat.pow 2 (number.exponent - 2).toNat * Nat.pow 10 (-power).toNat

/-- The number lies below `10 ^ power`. -/
def isBelow (number : Binary) (power : Int) : Bool :=
  4 * number.significand * number.quarterFactor power < number.decimalFactor power

/-- The least power of ten above the number. -/
def magnitude (number : Binary) : Int :=
  ((List.range 640).findSome? fun (step : Nat) ↦
    let power := (step : Int) - 325
    if number.isBelow power then some power else none).getD 309

/-- The decimal rounds to the number: it lies between the middles of the two gaps beside it, and
meets one only if the significand is even. -/
def roundsTo (number : Binary) (candidate : Expansion) : Bool :=
  let point := candidate.digits * number.decimalFactor candidate.exponent
  let unit := number.quarterFactor candidate.exponent
  let low := (4 * number.significand - if number.onBoundary then 1 else 2) * unit
  let high := (4 * number.significand + 2) * unit
  if number.significand % 2 = 0 then low ≤ point && point ≤ high else low < point && point < high

/-- Twice the place of the number between two neighbours of a decimal grid, less that of their
middle: negative if the lower neighbour is nearer. -/
def excess (number : Binary) (lower : Expansion) : Int :=
  let middle := (2 * lower.digits + 1) * number.decimalFactor lower.exponent
  (8 * number.significand * number.quarterFactor lower.exponent : Nat) - (middle : Nat)

/-- The nearest decimal with `count` digits that rounds to the number. -/
def withDigits (number : Binary) (count : Nat) : Option Expansion :=
  let power := number.magnitude - count
  let floor := 4 * number.significand * number.quarterFactor power / number.decimalFactor power
  let lower : Expansion := ⟨floor, power⟩
  let upper : Expansion := ⟨floor + 1, power⟩
  match number.roundsTo lower, number.roundsTo upper with
  | true, true =>
    let excess := number.excess lower
    some (if excess < 0 || (excess = 0 && floor % 2 = 0) then lower else upper)
  | true, false => some lower
  | false, true => some upper
  | false, false => none

end Binary

/-- The same number without zeros at the end of its digits. -/
def Expansion.trim (number : Expansion) : Expansion :=
  if h : number.digits ≠ 0 ∧ number.digits % 10 = 0 then
    Expansion.trim ⟨number.digits / 10, number.exponent + 1⟩
  else number
termination_by number.digits
decreasing_by
  show number.digits / 10 < number.digits
  omega

/-- The shortest decimal of a positive number in double precision. Seventeen digits always do. -/
def shortest (number : Binary) : Expansion :=
  match (List.range 17).findSome? fun index ↦ number.withDigits (index + 1) with
  | some found => found.trim
  | none => ⟨0, 0⟩

end DefUse.Decimal
