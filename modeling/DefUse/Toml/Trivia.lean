import DefUse.Toml.Cursor

/-!
# White space, line breaks and comments

What may stand between the parts of a TOML document.
-/

namespace DefUse.Toml

/-- Characters that may stand in a string or a comment as they are. -/
def isPlain (c : Char) : Bool := c = '\t' || (0x20 ≤ c.toNat && c.toNat ≠ 0x7F)

def isSpace (c : Char) : Bool := c = ' ' || c = '\t'

def spaceCount (input : List Char) : Nat := (input.takeWhile isSpace).length

/-- The number of characters of a line break. -/
def lineBreak : List Char → Option Nat
  | '\n' :: _ => some 1
  | '\r' :: '\n' :: _ => some 2
  | _ => none

/-- The number of spaces and of characters of line breaks that a text starts with. -/
def blankCount : List Char → Nat
  | '\n' :: rest => blankCount rest + 1
  | '\r' :: '\n' :: rest => blankCount rest + 2
  | c :: rest => if isSpace c then blankCount rest + 1 else 0
  | [] => 0

/-- The number of characters of a comment. -/
def commentCount : List Char → Nat
  | '#' :: rest => (rest.takeWhile isPlain).length + 1
  | _ => 0

/-- Spaces, line breaks and comments, each of which has its line break. -/
def blankLines (count : Nat) (inComment : Bool) : List Char → Except Stop (Unit × Nat)
  | '\n' :: rest => blankLines (count + 1) false rest
  | '\r' :: '\n' :: rest => blankLines (count + 2) false rest
  | '\r' :: _ => .error (.after (count + 1))
  | c :: rest =>
    if inComment then
      if isPlain c then blankLines (count + 1) true rest else .error (.after (count + 1))
    else if c = '#' then blankLines (count + 1) true rest
    else if isSpace c then blankLines (count + 1) false rest
    else .ok ((), count)
  | [] => if inComment then .error (.after count) else .ok ((), count)

/-- The end of a line after a value or a header, which may have a comment. -/
def lineEnd (input : List Char) : Except Stop (Unit × Nat) :=
  let start := spaceCount input
  let count := start + commentCount (input.drop start)
  let rest := input.drop count
  if rest.isEmpty then .ok ((), count)
  else
    match lineBreak rest with
    | some width => .ok ((), count + width)
    | none => .error ((Stop.after count).expecting [.lineBreak, .mark "#"])

def Cursor.skipSpaces (cursor : Cursor) : Cursor := cursor.skip (spaceCount cursor.rest)

theorem Cursor.size_skipSpaces_le (cursor : Cursor) : cursor.skipSpaces.size ≤ cursor.size :=
  cursor.size_skip_le _

end DefUse.Toml
