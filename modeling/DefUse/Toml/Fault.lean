import DefUse.Decimal.Notation
import DefUse.Text.Blank
import DefUse.Text.Quoted

/-!
# Faults in a TOML text

Reading stops where a text no longer fits the grammar, or where it fits and still means nothing. What
is read may be of a kind that nobody asked for. Either way a fault has a cause and a span, and its
message shows the line with the span underlined.
-/

namespace DefUse.Toml

/-- Values. Times, arrays and inline tables are checked as they are read, and of them only the kind is
kept. A float is given by its word in double precision. -/
inductive Value where
  | string (text : String)
  | integer (value : Int)
  | float (bits : UInt64)
  | boolean (value : Bool)
  | dateTime
  | array
  | inlineTable
deriving DecidableEq

def Value.kind : Value → String
  | .string _ => "string"
  | .integer _ => "integer"
  | .float _ => "float"
  | .boolean _ => "boolean"
  | .dateTime => "datetime"
  | .array => "array"
  | .inlineTable => "inline table"

/-- What a name stands for: a value, a table, or tables in a row. -/
inductive Found where
  | value (value : Value)
  | table
  | tables
deriving DecidableEq

/-- What was being read when reading stopped. -/
inductive Construct where
  | array
  | basicString
  | binaryInteger
  | dateTime
  | escape
  | float
  | hexadecimalInteger
  | inlineTable
  | integer
  | key
  | literalString
  | longBasicString
  | longLiteralString
  | longCode
  | octalInteger
  | shortCode
  | string
  | tableHeader
  | time
  | timeOffset
deriving DecidableEq

def Construct.name : Construct → String
  | .array => "array"
  | .basicString => "basic string"
  | .binaryInteger => "binary integer"
  | .dateTime => "date-time"
  | .escape => "escape sequence"
  | .float => "floating-point number"
  | .hexadecimalInteger => "hexadecimal integer"
  | .inlineTable => "inline table"
  | .integer => "integer"
  | .key => "key"
  | .literalString => "literal string"
  | .longBasicString => "multiline basic string"
  | .longLiteralString => "multiline literal string"
  | .longCode => "unicode 8-digit hex code"
  | .octalInteger => "octal integer"
  | .shortCode => "unicode 4-digit hex code"
  | .string => "string"
  | .tableHeader => "table header"
  | .time => "time"
  | .timeOffset => "time offset"

/-- What could have stood where reading stopped. -/
inductive Expected where
  | digit
  | leadingDigit
  | lineBreak
  | mark (text : String)
deriving DecidableEq

def Expected.text : Expected → String
  | .digit => "digit"
  | .leadingDigit => "leading digit"
  | .lineBreak => "newline"
  | .mark text => s!"`{text}`"

/-- Why a text that fits the grammar means nothing. A repeated key may name the table it is in, by the
keys that lead there. -/
inductive Reason where
  | extendsValue (path : List String) (kind : String)
  | numberTooLarge
  | numberTooSmall
  | outOfRange
  | repeatedKey (key : String) (table : Option (List String))
  | tooDeep
deriving DecidableEq

def Reason.text : Reason → String
  | .extendsValue path kind =>
    "dotted key `" ++ ".".intercalate path ++ "` attempted to extend non-table type (" ++ kind ++ ")"
  | .numberTooLarge => "number too large to fit in target type"
  | .numberTooSmall => "number too small to fit in target type"
  | .outOfRange => "value is out of range"
  | .repeatedKey key none => s!"duplicate key `{key}`"
  | .repeatedKey key (some []) => s!"duplicate key `{key}` in document root"
  | .repeatedKey key (some table) =>
    s!"duplicate key `{key}` in table `" ++ ".".intercalate table ++ "`"
  | .tooDeep => "recursion limit exceeded"

/-- Reading stopped after `offset` characters. -/
structure Stop where
  offset : Nat
  construct : Option Construct
  expected : List Expected
  reason : Option Reason
deriving DecidableEq

namespace Stop

def after (offset : Nat) : Stop := ⟨offset, none, [], none⟩

/-- The stop of a part as one of the whole, in which `count` characters stand before the part. -/
def shift (stop : Stop) (count : Nat) : Stop := { stop with offset := count + stop.offset }

/-- Of nested constructs the innermost is named. -/
def inside (stop : Stop) (construct : Construct) : Stop :=
  { stop with construct := stop.construct.or (some construct) }

def expecting (stop : Stop) (expected : List Expected) : Stop :=
  { stop with expected := stop.expected ++ expected }

def because (stop : Stop) (reason : Reason) : Stop := { stop with reason := some reason }

/-- One line each for the construct, for what was expected and for the reason. -/
def text (stop : Stop) : String :=
  let construct := stop.construct.map fun construct ↦ "invalid " ++ construct.name
  let expected :=
    if stop.expected.isEmpty then none
    else some ("expected " ++ ", ".intercalate (stop.expected.map Expected.text))
  let lines := [construct, expected, stop.reason.map Reason.text]
  "\n".intercalate (lines.filterMap id)

end Stop

/-- The characters from `start` on and before `stop`. -/
structure Span where
  start : Nat
  stop : Nat
deriving DecidableEq

inductive Cause where
  | stopped (stop : Stop)
  | unknownName (name : String) (known : List String)
  | invalidType (found : Found) (expected : String)
  | invalidValue (value : Int) (expected : String)
deriving DecidableEq

structure Fault where
  cause : Cause
  span : Span
deriving DecidableEq

/-- A stop points at the character that reading came to, or behind the last one. -/
def Fault.ofStop (length : Nat) (stop : Stop) : Fault :=
  ⟨.stopped stop, stop.offset, min length (stop.offset + 1)⟩

/-- All digits of a float, in their places. -/
def floatText (bits : UInt64) : String :=
  let sign := if bits.toNat < Nat.pow 2 63 then "" else "-"
  let magnitude := bits.toNat % Nat.pow 2 63
  let infinity := 2047 * Nat.pow 2 52
  if infinity < magnitude then "NaN"
  else if magnitude = infinity then sign ++ "inf"
  else if magnitude = 0 then sign ++ "0.0"
  else sign ++ String.ofList (Decimal.shortest (.ofBits bits)).positional

def Value.text : Value → String
  | .string text => "string " ++ Text.quoted text
  | .integer value => s!"integer `{value}`"
  | .float bits => "floating point `" ++ floatText bits ++ "`"
  | .boolean value => s!"boolean `{value}`"
  | .dateTime => "map"
  | .array => "sequence"
  | .inlineTable => "map"

def Found.text : Found → String
  | .value content => content.text
  | .table => "map"
  | .tables => "sequence"

/-- Names in quotes, with a word before the last one. -/
def alternatives (names : List String) : String :=
  " or ".intercalate (names.map fun name ↦ s!"`{name}`")

def Cause.text : Cause → String
  | .stopped stop => stop.text
  | .unknownName name known => s!"unknown field `{name}`, expected " ++ alternatives known
  | .invalidType found expected => "invalid type: " ++ found.text ++ ", expected " ++ expected
  | .invalidValue value expected => s!"invalid value: integer `{value}`, expected {expected}"

/-- A fault in a text. -/
structure Mistake where
  source : String
  fault : Fault
deriving DecidableEq

/-- A line of a text and a place on it, both counted from zero. The end of a text lies behind its last
character, even if that is a line break. The place is counted in characters, or in bytes where the
character at the place takes more than one. -/
def position (text : List Char) (index : Nat) : Nat × Nat :=
  let last := min index (text.length - 1)
  let before := text.take last
  let onLine := (before.reverse.takeWhile (· != '\n')).reverse
  let column :=
    match text[index]? with
    | some c => if c.toNat < 0x80 then onLine.length else (String.ofList onLine).utf8ByteSize
    | none => onLine.length + (index - last)
  (before.count '\n', column)

def spaces (count : Nat) : String := String.ofList (List.replicate count ' ')

/-- The place of the mistake, its line with the span underlined, and the cause. -/
def Mistake.message (mistake : Mistake) : String :=
  let chars := mistake.source.toList
  let span := mistake.fault.span
  let (index, column) := position chars span.start
  let content := String.ofList (((Text.pieces (· == '\n') chars)[index]?).getD [])
  let length := (String.ofList ((chars.take span.stop).drop span.start)).utf8ByteSize
  let carets := max 1 (min length (content.utf8ByteSize - column))
  let number := toString (index + 1)
  let gutter := spaces (number.length + 1) ++ "|"
  s!"TOML parse error at line {number}, column {column + 1}\n" ++ gutter ++ "\n" ++
    number ++ " | " ++ content ++ "\n" ++
    gutter ++ spaces (column + 1) ++ String.ofList (List.replicate carets '^') ++ "\n" ++
    mistake.fault.cause.text ++ "\n"

end DefUse.Toml
