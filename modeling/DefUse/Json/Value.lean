/-!
# JSON values and their text

Values are written over several lines, two spaces deeper for every bracket; only empty arrays and
objects stand on one line.
-/

namespace DefUse.Json

inductive Value where
  | null
  | boolean (value : Bool)
  | number (value : Nat)
  | string (text : String)
  | array (items : List Value)
  | object (members : List (String × Value))

def hexDigits2 (n : Nat) : List Char := [Nat.digitChar (n / 16), Nat.digitChar (n % 16)]

/-- Quotes, backslashes and control characters are escaped, and nothing else. -/
def escapedChar (c : Char) : List Char :=
  if c = '"' then ['\\', '"']
  else if c = '\\' then ['\\', '\\']
  else if c = '\x08' then ['\\', 'b']
  else if c = '\t' then ['\\', 't']
  else if c = '\n' then ['\\', 'n']
  else if c = '\x0c' then ['\\', 'f']
  else if c = '\r' then ['\\', 'r']
  else if c.toNat < 0x20 then ['\\', 'u', '0', '0'] ++ hexDigits2 c.toNat
  else [c]

def escaped (text : String) : List Char := '"' :: text.toList.flatMap escapedChar ++ ['"']

/-- A line break and the spaces in front of a line. -/
def newLine (depth : Nat) : List Char := '\n' :: List.replicate (2 * depth) ' '

def boolChars : Bool → List Char
  | true => ['t', 'r', 'u', 'e']
  | false => ['f', 'a', 'l', 's', 'e']

namespace Value

mutual

def chars (depth : Nat) : Value → List Char
  | .null => ['n', 'u', 'l', 'l']
  | .boolean value => boolChars value
  | .number value => Nat.toDigits 10 value
  | .string text => escaped text
  | .array [] => ['[', ']']
  | .array (first :: rest) => '[' :: itemChars (depth + 1) (first :: rest) ++ newLine depth ++ [']']
  | .object [] => ['\x7b', '\x7d']
  | .object (first :: rest) =>
    '\x7b' :: memberChars (depth + 1) (first :: rest) ++ newLine depth ++ ['\x7d']

def itemChars (depth : Nat) : List Value → List Char
  | [] => []
  | [last] => newLine depth ++ last.chars depth
  | item :: next :: rest => newLine depth ++ item.chars depth ++ ',' :: itemChars depth (next :: rest)

def memberChars (depth : Nat) : List (String × Value) → List Char
  | [] => []
  | [(name, last)] => newLine depth ++ escaped name ++ ':' :: ' ' :: last.chars depth
  | (name, value) :: next :: rest =>
    newLine depth ++ escaped name ++ ':' :: ' ' :: value.chars depth ++ ',' ::
      memberChars depth (next :: rest)

end

def pretty (value : Value) : String := String.ofList (value.chars 0)

def ofOption {α : Type} (f : α → Value) : Option α → Value
  | none => .null
  | some value => f value

def ofList {α : Type} (f : α → Value) (items : List α) : Value := .array (items.map f)

end Value

end DefUse.Json
