import DefUse.Toml.Trivia

/-!
# Strings of TOML

Strings are basic, with escapes, or literal, and stand on one line or on several. A scan of a string
starts at its opening quote.
-/

namespace DefUse.Toml

def hexDigit (c : Char) : Option Nat :=
  if '0' ≤ c ∧ c ≤ '9' then some (c.toNat - '0'.toNat)
  else if 'a' ≤ c ∧ c ≤ 'f' then some (c.toNat - 'a'.toNat + 10)
  else if 'A' ≤ c ∧ c ≤ 'F' then some (c.toNat - 'A'.toNat + 10)
  else none

def ofDigits (base : Nat) (digits : List Nat) : Nat :=
  digits.foldl (fun value digit ↦ value * base + digit) 0

/-- The character whose code point stands in `width` digits after a letter. -/
def codePoint (construct : Construct) (width : Nat) (input : List Char) :
    Except Stop (Char × Nat) :=
  let digits := (input.take width).filterMap hexDigit
  let code := ofDigits 16 digits
  if digits.length < width then .error ((Stop.after 1).inside construct)
  else if code.isValidChar then .ok (Char.ofNat code, width + 1)
  else .error (((Stop.after 1).because .outOfRange).inside construct)

/-- What the letter of a short escape stands for. -/
def letterEscape : Char → Option Char
  | 'b' => some '\x08'
  | 'f' => some '\x0c'
  | 'n' => some '\n'
  | 'r' => some '\r'
  | 't' => some '\t'
  | '\\' => some '\\'
  | '"' => some '"'
  | _ => none

def escapeMarks : List Expected :=
  ["b", "f", "n", "r", "t", "u", "U", "\\", "\""].map .mark

/-- What follows a backslash. A text that ends there has no escape. -/
def escape : List Char → Option (Except Stop (Char × Nat))
  | [] => none
  | 'u' :: rest => some (codePoint .shortCode 4 rest)
  | 'U' :: rest => some (codePoint .longCode 8 rest)
  | letter :: _ =>
    match letterEscape letter with
    | some char => some (.ok (char, 1))
    | none =>
      let count := if letter.toNat < 0x80 then 1 else 0
      some (.error (((Stop.after count).inside .escape).expecting escapeMarks))

/-- A basic string from a place inside it on. -/
def basicTail (count : Nat) (before : List Char) (input : List Char) : Except Stop (String × Nat) :=
  let unclosed := (Stop.after count).inside .basicString
  match input with
  | '"' :: _ => .ok (String.ofList before.reverse, count + 1)
  | '\\' :: rest =>
    match escape rest with
    | none => .error unclosed
    | some (.error stop) => .error (stop.shift (count + 1))
    | some (.ok (char, width)) => basicTail (count + 1 + width) (char :: before) (rest.drop width)
  | c :: rest => if isPlain c then basicTail (count + 1) (c :: before) rest else .error unclosed
  | [] => .error unclosed
termination_by input.length
decreasing_by all_goals simp only [List.length_cons, List.length_drop]; omega

def literalTail (input : List Char) : Except Stop (String × Nat) :=
  let content := input.takeWhile fun c ↦ isPlain c && c ≠ '\''
  match input.drop content.length with
  | '\'' :: _ => .ok (String.ofList content, content.length + 2)
  | _ => .error ((Stop.after (content.length + 1)).inside .literalString)

/-- The number of characters of a line break after a backslash, and of the blanks around it. -/
def continuation (input : List Char) : Option Nat :=
  (lineBreak (input.drop (spaceCount input))).map fun _ ↦ blankCount input

/-- The text goes on with content of a string of several lines, right or wrong. -/
def hasContent : List Char → Bool
  | '\\' :: rest => !rest.isEmpty
  | '"' :: _ => false
  | c :: rest => isPlain c || (lineBreak (c :: rest)).isSome
  | [] => false

/-- A basic string of several lines from a place inside it on. Up to two quotes may stand before the
closing ones, and others where content follows them. An escape right after a quote is looked at
before it is read, so that a wrong one stops at its backslash. -/
def longBasicTail (count : Nat) (before : List Char) (afterQuote : Bool) (input : List Char) :
    Except Stop (String × Nat) :=
  let unclosed := (Stop.after count).inside .longBasicString
  match input with
  | '"' :: rest =>
    let quotes := (input.takeWhile (· == '"')).length
    if 3 ≤ quotes then
      let kept := min 2 (quotes - 3)
      .ok (String.ofList (List.replicate kept '"' ++ before).reverse, count + kept + 3)
    else if hasContent (input.drop quotes) then longBasicTail (count + 1) ('"' :: before) true rest
    else .error unclosed
  | '\\' :: rest =>
    match continuation rest with
    | some width => longBasicTail (count + 1 + width) before false (rest.drop width)
    | none =>
      match escape rest with
      | none => .error unclosed
      | some (.error stop) =>
        .error (if afterQuote then { stop with offset := count } else stop.shift (count + 1))
      | some (.ok (char, width)) =>
        longBasicTail (count + 1 + width) (char :: before) false (rest.drop width)
  | '\n' :: rest => longBasicTail (count + 1) ('\n' :: before) false rest
  | '\r' :: '\n' :: rest => longBasicTail (count + 2) ('\n' :: before) false rest
  | c :: rest =>
    if isPlain c then longBasicTail (count + 1) (c :: before) false rest else .error unclosed
  | [] => .error unclosed
termination_by input.length
decreasing_by all_goals simp only [List.length_cons, List.length_drop]; omega

/-- A literal string of several lines from a place inside it on. -/
def longLiteralTail (count : Nat) (before : List Char) (input : List Char) :
    Except Stop (String × Nat) :=
  let unclosed := (Stop.after count).inside .longLiteralString
  match input with
  | '\'' :: rest =>
    let quotes := (input.takeWhile (· == '\'')).length
    if 3 ≤ quotes then
      let kept := min 2 (quotes - 3)
      .ok (String.ofList (List.replicate kept '\'' ++ before).reverse, count + kept + 3)
    else
      let next := input.drop quotes
      if next.head?.any isPlain || (lineBreak next).isSome then
        longLiteralTail (count + 1) ('\'' :: before) rest
      else .error unclosed
  | '\n' :: rest => longLiteralTail (count + 1) ('\n' :: before) rest
  | '\r' :: '\n' :: rest => longLiteralTail (count + 2) ('\n' :: before) rest
  | c :: rest => if isPlain c then longLiteralTail (count + 1) (c :: before) rest else .error unclosed
  | [] => .error unclosed

/-- A string on one line. -/
def shortString : Scan String
  | '"' :: rest => basicTail 1 [] rest
  | '\'' :: rest => literalTail rest
  | _ => .error (.after 0)

/-- A string. One of several lines leaves out a line break right after its opening quotes. -/
def string : Scan String
  | '"' :: '"' :: '"' :: rest =>
    let skipped := (lineBreak rest).getD 0
    longBasicTail (3 + skipped) [] false (rest.drop skipped)
  | '\'' :: '\'' :: '\'' :: rest =>
    let skipped := (lineBreak rest).getD 0
    longLiteralTail (3 + skipped) [] (rest.drop skipped)
  | input => shortString input

end DefUse.Toml
