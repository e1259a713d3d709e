import DefUse.Decimal.Notation
import DefUse.Text.Quoted

/-!
# Faults in a JSON text

A fault has a cause and a place in the text. Its message names the line and the column of the place,
counted in bytes.
-/

namespace DefUse.Json

/-- What stands where something else was expected. A float is given by its word in double
precision. -/
inductive Found where
  | null
  | boolean (value : Bool)
  | integer (value : Int)
  | float (bits : UInt64)
  | string (text : String)
  | sequence
  | map
deriving DecidableEq

inductive Cause where
  | endInList
  | endInObject
  | endInString
  | endInValue
  | expectedColon
  | expectedListEnd
  | expectedObjectEnd
  | expectedIdent
  | expectedValue
  | invalidEscape
  | invalidNumber
  | numberOutOfRange
  | controlCharacter
  | keyNotString
  | loneSurrogate
  | unexpectedEscapeEnd
  | trailingComma
  | trailingCharacters
  | nestedTooDeep
  | invalidType (found : Found) (expected : String)
  | invalidValue (value : Int) (expected : String)
  | invalidLength (length : Nat) (expected : String)
  | duplicateField (name : String)
  | missingField (name : String)
deriving DecidableEq

/-- A cause and the number of bytes before its place. -/
structure Fault where
  cause : Cause
  offset : Nat
deriving DecidableEq

/-- Digits in positional notation from a hundred thousandth up to sixteen places before the point,
and with an exponent outside. -/
def decimalText (number : Decimal.Expansion) : String :=
  String.ofList <|
    if -5 ≤ number.leading && number.leading ≤ 15 then number.positional else number.scientific

/-- The shortest text that reads back as the float. -/
def floatText (bits : UInt64) : String :=
  let number := Decimal.Binary.ofBits bits
  let sign := if bits.toNat < Nat.pow 2 63 then "" else "-"
  sign ++ if number.significand = 0 then "0.0" else decimalText (Decimal.shortest number)

def Found.text : Found → String
  | .null => "null"
  | .boolean true => "boolean `true`"
  | .boolean false => "boolean `false`"
  | .integer value => s!"integer `{value}`"
  | .float bits => "floating point `" ++ floatText bits ++ "`"
  | .string text => "string " ++ Text.quoted text
  | .sequence => "sequence"
  | .map => "map"

def Cause.text : Cause → String
  | .endInList => "EOF while parsing a list"
  | .endInObject => "EOF while parsing an object"
  | .endInString => "EOF while parsing a string"
  | .endInValue => "EOF while parsing a value"
  | .expectedColon => "expected `:`"
  | .expectedListEnd => "expected `,` or `]`"
  | .expectedObjectEnd => "expected `,` or `\x7d`"
  | .expectedIdent => "expected ident"
  | .expectedValue => "expected value"
  | .invalidEscape => "invalid escape"
  | .invalidNumber => "invalid number"
  | .numberOutOfRange => "number out of range"
  | .controlCharacter => "control character (\\u0000-\\u001F) found while parsing a string"
  | .keyNotString => "key must be a string"
  | .loneSurrogate => "lone leading surrogate in hex escape"
  | .unexpectedEscapeEnd => "unexpected end of hex escape"
  | .trailingComma => "trailing comma"
  | .trailingCharacters => "trailing characters"
  | .nestedTooDeep => "recursion limit exceeded"
  | .invalidType found expected => "invalid type: " ++ found.text ++ ", expected " ++ expected
  | .invalidValue value expected => s!"invalid value: integer `{value}`, expected {expected}"
  | .invalidLength length expected => s!"invalid length {length}, expected {expected}"
  | .duplicateField name => s!"duplicate field `{name}`"
  | .missingField name => s!"missing field `{name}`"

/-- A fault with its line, counted from one, and the bytes before it on that line. -/
structure Mistake where
  cause : Cause
  line : Nat
  column : Nat
deriving DecidableEq

def Fault.locate (fault : Fault) (bytes : List UInt8) : Mistake :=
  let before := bytes.take fault.offset
  ⟨fault.cause, 1 + before.count 10, (before.reverse.takeWhile (· != 10)).length⟩

def Mistake.message (mistake : Mistake) : String :=
  mistake.cause.text ++ s!" at line {mistake.line} column {mistake.column}"

end DefUse.Json
