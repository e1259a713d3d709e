import DefUse.Operation
import DefUse.Text.Word

/-!
# Scripts

A script has one command a line, with the id of an element behind it if there is one. Blank lines and
comments are skipped.
-/

namespace DefUse

/-- A line of a script, not yet bound to a listing. -/
structure Step where
  command : Command
  line : Nat
  origin : Option ElementId
deriving DecidableEq

namespace Script

def isNameChar (c : Char) : Bool := Text.isWord c || c = '-'

def isOriginChar (c : Char) : Bool := !Text.isBlank c && c ≠ '#'

/-- Nothing follows but blanks and a comment. -/
def isEnd (text : List Char) : Bool :=
  match text.dropWhile Text.isBlank with
  | [] => true
  | c :: _ => c = '#'

/-- The id behind a name, if there is one; nothing if the rest of the line is something else. -/
def scanOrigin (text : List Char) : Option (Option (List Char)) :=
  if isEnd text then some none
  else if text.head?.any Text.isBlank then
    let start := text.dropWhile Text.isBlank
    if isEnd (start.dropWhile isOriginChar) then some (some (start.takeWhile isOriginChar)) else none
  else none

/-- The name at the start of a line and the id behind it. A name starts with a plain letter. -/
def scanLine (text : List Char) : Option (List Char × Option (List Char)) :=
  let start := text.dropWhile Text.isBlank
  if start.head?.any Char.isAlpha then
    (scanOrigin (start.dropWhile isNameChar)).map fun origin ↦ (start.takeWhile isNameChar, origin)
  else none

/-- The step of a line, if it has one. -/
def readLine (number : Nat) (line : List Char) : Except Problem (Option Step) :=
  let text := Text.trim line
  if text.isEmpty || text.head? = some '#' then .ok none
  else
    match scanLine text with
    | none => .error (.scriptLine number (String.ofList text))
    | some (name, origin) => do
      let command ← Command.ofName (String.ofList name)
      .ok (some ⟨command, number, origin.map String.ofList⟩)

/-- The steps of numbered lines, up to the first that is wrong. -/
def readLines : List (List Char × Nat) → Except Problem (List Step)
  | [] => .ok []
  | (line, number) :: rest => do
    let step ← readLine number line
    let steps ← readLines rest
    .ok (step.toList ++ steps)

/-- Reads the steps of a script. -/
def ofText (source : String) : Except Problem (List Step) := readLines ((Text.lines source.toList).zipIdx 1)

/-- Binds all steps to a listing, or none. -/
def bind (listing : Listing) : List Step → Except Problem (List Operation)
  | [] => .ok []
  | step :: rest => do
    let operation ← step.command.bind listing step.origin
    let operations ← bind listing rest
    .ok (operation :: operations)

end Script

end DefUse
