import DefUse.Text.CodeRange

/-!
# White space and lines

Blank characters are those with the White_Space property. A text is cut into pieces at separators;
its words are the nonempty pieces between blanks, and its lines are the pieces between line feeds.
-/

namespace DefUse.Text

def blankRanges : List (Nat × Nat) :=
  [(0x0009, 0x000D), (0x0020, 0x0020), (0x0085, 0x0085), (0x00A0, 0x00A0), (0x1680, 0x1680),
   (0x2000, 0x200A), (0x2028, 0x2029), (0x202F, 0x202F), (0x205F, 0x205F), (0x3000, 0x3000)]

def isBlank (c : Char) : Bool := inRanges blankRanges c

/-- The text without the blanks at its two ends. -/
def trim (text : List Char) : List Char :=
  ((text.dropWhile isBlank).reverse.dropWhile isBlank).reverse

/-- The pieces between separators, empty ones included: one more than there are separators. -/
def pieces (separates : Char → Bool) : List Char → List (List Char)
  | [] => [[]]
  | c :: rest =>
    if separates c then [] :: pieces separates rest
    else
      match pieces separates rest with
      | [] => [[c]]
      | first :: others => (c :: first) :: others

theorem pieces_ne_nil (separates : Char → Bool) (text : List Char) : pieces separates text ≠ [] := by
  cases text with
  | nil => simp [pieces]
  | cons c rest =>
    unfold pieces
    split
    · simp
    · split <;> simp

/-- The nonempty pieces between separators. -/
def segments (separates : Char → Bool) (text : List Char) : List (List Char) :=
  (pieces separates text).filter fun piece ↦ !piece.isEmpty

/-- The words of a text: its nonempty pieces between blanks. -/
def words (text : List Char) : List (List Char) := segments isBlank text

/-- The line without one carriage return at its end. -/
def dropReturn (line : List Char) : List Char :=
  if line.getLast? = some '\r' then line.dropLast else line

/-- A line feed ends a line and takes one carriage return before it along. What follows the last
line feed is a line only if it is nonempty, and is kept as it is. -/
def endedLines : List (List Char) → List (List Char)
  | [] => []
  | [last] => if last.isEmpty then [] else [last]
  | line :: next :: rest => dropReturn line :: endedLines (next :: rest)

/-- The lines of a text. -/
def lines (text : List Char) : List (List Char) := endedLines (pieces (· == '\n') text)

/-- The text before the first separator and the text after it. -/
def splitFirst (separator : Char) : List Char → Option (List Char × List Char)
  | [] => none
  | c :: rest =>
    if c = separator then some ([], rest)
    else (splitFirst separator rest).map fun parts ↦ (c :: parts.1, parts.2)

end DefUse.Text
