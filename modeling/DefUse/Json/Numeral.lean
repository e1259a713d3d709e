import DefUse.Json.Cursor

/-!
# Numbers in a JSON text

A number without point and exponent is an integer if it fits in 64 bits. Any other number is a float:
its leading digits make a significand of 64 bits, which is scaled by a power of ten in double
precision.
-/

namespace DefUse.Json

inductive Numeral where
  | integer (value : Int)
  | float (bits : UInt64)
deriving DecidableEq

def Numeral.found : Numeral → Found
  | .integer value => .integer value
  | .float bits => .float bits

def isDigit (byte : UInt8) : Bool := 0x30 ≤ byte && byte ≤ 0x39

def isExponentMark (byte : UInt8) : Bool := byte == 0x65 || byte == 0x45

/-- The digits that stand here. -/
def digitsAt (cursor : Cursor) : List Nat :=
  (cursor.rest.takeWhile isDigit).map fun byte ↦ byte.toNat - 0x30

/-- Takes digits into a number as long as it stays within the bound, and counts the digits that are
left over. -/
def accumulate (bound : Nat) (value : Nat) : List Nat → Nat × Nat
  | [] => (value, 0)
  | digit :: others =>
    if value * 10 + digit ≤ bound then accumulate bound (value * 10 + digit) others
    else (value, others.length + 1)

def maxSignificand : Nat := Nat.pow 2 64 - 1

def maxExponent : Nat := Nat.pow 2 31 - 1

def powerOfTen (exponent : Nat) : Float := Float.ofScientific 1 false exponent

/-- The number times a power of ten in double precision; nothing if it grows too large. Powers of ten
end at 308, and a smaller number is reached by several divisions. -/
def scale (number : Float) (exponent : Int) : Option Float :=
  if 0 ≤ exponent then
    if exponent ≤ 308 then
      let scaled := number * powerOfTen exponent.toNat
      if scaled.isInf then none else some scaled
    else if number == 0 then some number
    else none
  else if h : -308 ≤ exponent then some (number / powerOfTen (-exponent).toNat)
  else if number == 0 then some number
  else scale (number / powerOfTen 308) (exponent + 308)
termination_by (-exponent).toNat
decreasing_by omega

def signed (negative : Bool) (number : Float) : UInt64 := (if negative then -number else number).toBits

def scaledFloat (negative : Bool) (significand : Nat) (exponent : Int) (cursor : Cursor) :
    Except Fault (Numeral × Cursor) :=
  match scale significand.toUInt64.toFloat exponent with
  | some number => .ok (.float (signed negative number), cursor)
  | none => .error (cursor.fault .numberOutOfRange)

/-- The sign of an exponent and the place after it. -/
def exponentSign (cursor : Cursor) : Bool × Cursor :=
  match cursor.rest with
  | byte :: _ =>
    if byte = 0x2B then (false, cursor.skip 1)
    else if byte = 0x2D then (true, cursor.skip 1)
    else (false, cursor)
  | [] => (false, cursor)

/-- A number from the mark of its exponent on. -/
def exponentPart (negative : Bool) (significand : Nat) (exponent : Int) (cursor : Cursor) :
    Except Fault (Numeral × Cursor) :=
  let (down, start) := exponentSign (cursor.skip 1)
  match digitsAt start with
  | [] =>
    match start.rest with
    | [] => .error (start.fault .endInValue)
    | _ :: _ => .error ((start.skip 1).fault .invalidNumber)
  | digits =>
    let (shift, left) := accumulate maxExponent 0 digits
    if left = 0 then
      let shifted := if down then exponent - shift else exponent + shift
      scaledFloat negative significand shifted (start.skip digits.length)
    else if significand ≠ 0 && !down then
      .error ((start.skip (digits.length - left + 1)).fault .numberOutOfRange)
    else .ok (.float (signed negative 0), start.skip digits.length)

/-- A number from its point on. Digits that no longer fit the significand are ignored. -/
def fractionPart (negative : Bool) (significand : Nat) (exponent : Int) (cursor : Cursor) :
    Except Fault (Numeral × Cursor) :=
  let start := cursor.skip 1
  match digitsAt start with
  | [] =>
    match start.rest with
    | [] => .error (start.fault .endInValue)
    | _ :: _ => .error (start.peekFault .invalidNumber)
  | digits =>
    let (extended, left) := accumulate maxSignificand significand digits
    let lowered := exponent - (digits.length - left : Nat)
    let next := start.skip digits.length
    if next.rest.head?.any isExponentMark then exponentPart negative extended lowered next
    else scaledFloat negative extended lowered next

/-- An integer, unless it is zero with a sign or below the range of 64 bits. -/
def wholeNumber (negative : Bool) (value : Nat) : Numeral :=
  if !negative then .integer value
  else if value = 0 || Nat.pow 2 63 < value then .float (signed true value.toUInt64.toFloat)
  else .integer (-value)

/-- A number after its sign. -/
def numeral (negative : Bool) (cursor : Cursor) : Except Fault (Numeral × Cursor) :=
  match digitsAt cursor with
  | [] =>
    match cursor.rest with
    | [] => .error (cursor.fault .endInValue)
    | _ :: _ => .error ((cursor.skip 1).fault .invalidNumber)
  | 0 :: _ :: _ => .error ((cursor.skip 1).peekFault .invalidNumber)
  | digits =>
    let (significand, left) := accumulate maxSignificand 0 digits
    let next := cursor.skip digits.length
    match next.rest.head? with
    | some byte =>
      if byte = 0x2E then fractionPart negative significand left next
      else if isExponentMark byte then exponentPart negative significand left next
      else if left = 0 then .ok (wholeNumber negative significand, next)
      else scaledFloat negative significand left next
    | none =>
      if left = 0 then .ok (wholeNumber negative significand, next)
      else scaledFloat negative significand left next

end DefUse.Json
