import DefUse.Toml.Quotation

/-!
# Keys of TOML

A key is bare or a string on one line. Keys with dots between them name an entry of a table inside
others.
-/

namespace DefUse.Toml

/-- Names are nested at most this deep, and so are values. -/
def maxDepth : Nat := 79

structure Key where
  name : String
  span : Span
deriving DecidableEq

/-- An entry by the tables that lead to it and its key in the last of them. -/
structure KeyPath where
  tables : List Key
  key : Key
deriving DecidableEq

def KeyPath.keys (path : KeyPath) : List Key := path.tables ++ [path.key]

def isBare (c : Char) : Bool := c.isAlphanum || c = '_' || c = '-'

def isQuote (c : Char) : Bool := c = '"' || c = '\''

def startsKey (input : List Char) : Bool := input.head?.any fun c ↦ isBare c || isQuote c

/-- One key without dots. -/
def simpleKey (input : List Char) : Except Stop (String × Nat) :=
  if input.head?.any isQuote then shortString input
  else
    match input.takeWhile isBare with
    | [] => .error (.after 0)
    | bare => .ok (String.ofList bare, bare.length)

/-- The keys from here on, after those read before, last first. A dot without a key after it is not
part of them. -/
def keyParts (before : List Key) (cursor : Cursor) : Except Stop (Taken KeyPath cursor.size) :=
  let start := cursor.skipSpaces
  have startLe : start.size ≤ cursor.size := cursor.size_skipSpaces_le
  match start.take simpleKey with
  | .error stop => .error stop
  | .ok part =>
    let key : Key := ⟨part.value, start.spanTo part.next⟩
    let next := part.next.skipSpaces
    have nextLe : next.size ≤ cursor.size :=
      Nat.le_trans part.next.size_skipSpaces_le (Nat.le_trans part.size_le startLe)
    match h : next.rest with
    | '.' :: rest =>
      if startsKey (rest.drop (spaceCount rest)) then
        have shorter : (next.skip 1).size < next.size := by simp [Cursor.size, Cursor.skip, h]
        match keyParts (key :: before) (next.skip 1) with
        | .error stop => .error stop
        | .ok taken => .ok (taken.widen (by omega))
      else .ok ⟨⟨before.reverse, key⟩, next, nextLe⟩
    | _ => .ok ⟨⟨before.reverse, key⟩, next, nextLe⟩
termination_by cursor.size
decreasing_by exact Nat.lt_of_lt_of_le shorter nextLe

/-- A key with all of its dots. -/
def keyPath : Reader KeyPath := fun cursor ↦
  match explain (·.inside .key) (keyParts [] cursor) with
  | .error stop => .error stop
  | .ok taken =>
    if maxDepth < taken.value.keys.length then .error (cursor.stop.because .tooDeep) else .ok taken

end DefUse.Toml
