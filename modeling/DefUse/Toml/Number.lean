import DefUse.Toml.Quotation

/-!
# Numbers of TOML

Integers are decimal or have a base in front, and fit in 64 bits with a sign. Floats are decimal, with
a fraction or an exponent, and are rounded to double precision. Single underscores may stand between
digits.
-/

namespace DefUse.Toml

/-- Digits of a base after the first one. -/
def digitTail (base count : Nat) (before : List Nat) : List Char → Except Stop (List Nat × Nat)
  | '_' :: rest =>
    match rest with
    | c :: others =>
      match (hexDigit c).filter (· < base) with
      | some digit => digitTail base (count + 2) (digit :: before) others
      | none => .error ((Stop.after (count + 1)).expecting [.digit])
    | [] => .error ((Stop.after (count + 1)).expecting [.digit])
  | c :: rest =>
    match (hexDigit c).filter (· < base) with
    | some digit => digitTail base (count + 1) (digit :: before) rest
    | none => .ok (before.reverse, count)
  | [] => .ok (before.reverse, count)

/-- Digits of a base, of which there is at least one. -/
def digits (base : Nat) : Scan (List Nat)
  | c :: rest =>
    match (hexDigit c).filter (· < base) with
    | some digit => digitTail base 1 [digit] rest
    | none => .error (.after 0)
  | [] => .error (.after 0)

def signCount : List Char → Nat
  | '+' :: _ => 1
  | '-' :: _ => 1
  | _ => 0

/-- Decimal digits with a sign before them. A zero in front stands alone. -/
def decimalInteger (input : List Char) : Except Stop (List Nat × Nat) :=
  let start := signCount input
  let scanned : Except Stop (List Nat × Nat) :=
    match input.drop start with
    | '0' :: _ => .ok ([0], 1)
    | rest => digits 10 rest
  match scanned with
  | .ok (found, count) => .ok (found, start + count)
  | .error stop => .error ((stop.shift start).inside .integer)

/-- The digits after a point. -/
def fraction : Scan (List Nat)
  | '.' :: rest =>
    match digits 10 rest with
    | .ok (found, count) => .ok (found, count + 1)
    | .error stop => .error ((stop.shift 1).expecting [.digit])
  | _ => .ok ([], 0)

/-- The exponent after its letter. -/
def exponent (input : List Char) : Except Stop (Int × Nat) :=
  match input with
  | letter :: rest =>
    if letter = 'e' || letter = 'E' then
      let start := signCount rest
      match digits 10 (rest.drop start) with
      | .ok (found, count) =>
        let magnitude : Int := ofDigits 10 found
        .ok (if rest.head? = some '-' then -magnitude else magnitude, start + count + 1)
      | .error stop => .error (stop.shift (start + 1))
    else .ok (0, 0)
  | [] => .ok (0, 0)

/-- The double nearest to `significand * 10 ^ exponent`. No double is as large as `10 ^ 400`, and below
`10 ^ -400` there is only zero. -/
def nearestDouble (negative : Bool) (significand : Nat) (exponent : Int) : UInt64 :=
  let magnitude := exponent + (Nat.toDigits 10 significand).length
  let number : Float :=
    if significand = 0 || magnitude < -400 then 0
    else if 400 < magnitude then 1 / 0
    else Float.ofScientific significand (exponent < 0) exponent.natAbs
  (if negative then -number else number).toBits

def positiveInfinity : UInt64 := (1 / 0 : Float).toBits

/-- A float with a fraction or an exponent. Without either there is none. -/
def decimalFloat (input : List Char) : Except Stop (Option (Value × Nat)) := do
  let (whole, wholeCount) ← decimalInteger input
  let (part, partCount) ← explain (·.shift wholeCount) (fraction (input.drop wholeCount))
  let start := wholeCount + partCount
  let (power, powerCount) ← explain (·.shift start) (exponent (input.drop start))
  let count := start + powerCount
  if count = wholeCount then .ok none
  else
    let bits := nearestDouble (input.head? = some '-') (ofDigits 10 (whole ++ part)) (power - part.length)
    if bits = positiveInfinity then .error (.after 0) else .ok (some (.float bits, count))

def word (text : String) (input : List Char) : Bool := text.toList.isPrefixOf input

/-- Infinity or not a number, with a sign before it. -/
def specialFloat (input : List Char) : Option (Value × Nat) :=
  let start := signCount input
  let signed (number : Float) : UInt64 :=
    (if input.head? = some '-' then -number else number).toBits
  if word "inf" (input.drop start) then some (.float (signed (1 / 0)), start + 3)
  else if word "nan" (input.drop start) then some (.float (signed (0 / 0)), start + 3)
  else none

/-- The integer, if it fits in 64 bits with a sign. -/
def fitInteger (value : Int) (count : Nat) : Except Stop (Value × Nat) :=
  if Nat.pow 2 63 ≤ value then .error ((Stop.after 0).because .numberTooLarge)
  else if value < -(Nat.pow 2 63) then .error ((Stop.after 0).because .numberTooSmall)
  else .ok (.integer value, count)

/-- An integer whose base stands in its first two characters. -/
def basedInteger (construct : Construct) (base : Nat) (input : List Char) :
    Except Stop (Value × Nat) :=
  match digits base (input.drop 2) with
  | .ok (found, count) => fitInteger (ofDigits base found) (count + 2)
  | .error stop => .error ((stop.shift 2).inside construct)

def integer (input : List Char) : Except Stop (Value × Nat) :=
  match input with
  | '0' :: 'x' :: _ => basedInteger .hexadecimalInteger 16 input
  | '0' :: 'o' :: _ => basedInteger .octalInteger 8 input
  | '0' :: 'b' :: _ => basedInteger .binaryInteger 2 input
  | _ => do
    let (found, count) ← decimalInteger input
    let magnitude : Int := ofDigits 10 found
    fitInteger (if input.head? = some '-' then -magnitude else magnitude) count

/-- A number that starts with a sign or a digit. -/
def number (input : List Char) : Except Stop (Value × Nat) :=
  match specialFloat input with
  | some found => .ok found
  | none =>
    match explain (·.inside .float) (decimalFloat input) with
    | .error stop => .error stop
    | .ok (some found) => .ok found
    | .ok none => integer input

end DefUse.Toml
