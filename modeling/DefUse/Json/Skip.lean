import DefUse.Json.Literal
import DefUse.Json.Numeral

/-!
# Values that nobody asks for

A value of an unknown name is passed over. Its brackets are kept on a stack, so it may be nested as
deep as it likes, and its numbers are checked for their form only.
-/

namespace DefUse.Json

def digitCount (cursor : Cursor) : Nat := (cursor.rest.takeWhile isDigit).length

/-- The number of bytes of an exponent, from its mark on. -/
def exponentLength (cursor : Cursor) : Except Fault Nat :=
  let start := (exponentSign (cursor.skip 1)).2
  if digitCount start = 0 then .error ((start.skip (min 1 start.size)).fault .invalidNumber)
  else .ok (start.offset - cursor.offset + digitCount start)

/-- The number of bytes of a fraction, from its point on, with the exponent behind it. -/
def fractionLength (cursor : Cursor) : Except Fault Nat :=
  let start := cursor.skip 1
  let count := digitCount start
  if count = 0 then .error (start.peekFault .invalidNumber)
  else
    let next := start.skip count
    if next.rest.head?.any isExponentMark then (exponentLength next).map (1 + count + ·)
    else .ok (1 + count)

/-- The number of bytes of a number after its sign. -/
def numeralLength (cursor : Cursor) : Except Fault Nat :=
  let count := digitCount cursor
  if count = 0 then .error ((cursor.skip (min 1 cursor.size)).fault .invalidNumber)
  else if cursor.rest.head? = some 0x30 && 1 < count then
    .error ((cursor.skip 1).peekFault .invalidNumber)
  else
    let next := cursor.skip count
    match next.rest.head? with
    | some byte =>
      if byte = 0x2E then (fractionLength next).map (count + ·)
      else if isExponentMark byte then (exponentLength next).map (count + ·)
      else .ok count
    | none => .ok count

/-- An array or an object whose end is still to come. -/
inductive Bracket where
  | list
  | object
deriving DecidableEq

def Bracket.close : Bracket → UInt8
  | .list => 0x5D
  | .object => 0x7D

def Bracket.expectedEnd : Bracket → Cause
  | .list => .expectedListEnd
  | .object => .expectedObjectEnd

def Bracket.endInside : Bracket → Cause
  | .list => .endInList
  | .object => .endInObject

/-- Passes over a colon and the white space before it. -/
def colon : Reader Unit := fun cursor ↦
  let start := cursor.skipBlank
  match h : start.rest with
  | [] => .error (start.peekFault .endInObject)
  | byte :: _ =>
    if byte = 0x3A then
      .ok ⟨(), start.skip 1, Cursor.size_skipBlank_skip_lt h⟩
    else .error (start.peekFault .expectedColon)

/-- Passes over a name with its colon. -/
def skipName : Reader Unit := fun cursor ↦
  let start := cursor.skipBlank
  match h : start.rest with
  | [] => .error (start.peekFault .endInObject)
  | byte :: _ =>
    if byte = 0x22 then do
      let name ← stringTail .skip (start.skip 1)
      let mark ← colon name.next
      .ok ⟨(), mark.next, by
        have := mark.size_lt
        have := name.size_lt
        have : (start.skip 1).size < cursor.size := Cursor.size_skipBlank_skip_lt h
        omega⟩
    else .error (start.peekFault .keyNotString)

/-- Passes over what a value starts with: all of it, or its opening bracket. -/
def skipStart (cursor : Cursor) : Except Fault (Taken (Option Bracket) cursor.size) :=
  let start := cursor.skipBlank
  match h : start.rest with
  | [] => .error (start.peekFault .endInValue)
  | byte :: _ =>
    have smaller : (start.skip 1).size < cursor.size := Cursor.size_skipBlank_skip_lt h
    let wordTail (tail : List UInt8) : Except Fault (Taken (Option Bracket) cursor.size) :=
      match found : word tail (start.skip 1) with
      | .error fault => .error fault
      | .ok next => .ok ⟨none, next, Nat.lt_of_le_of_lt (size_word_le found) smaller⟩
    match byte.toNat with
    | 0x6E => wordTail nullTail
    | 0x74 => wordTail trueTail
    | 0x66 => wordTail falseTail
    | 0x22 => do
      let text ← stringTail .skip (start.skip 1)
      .ok ⟨none, text.next, Nat.lt_trans text.size_lt smaller⟩
    | 0x5B => .ok ⟨some .list, start.skip 1, smaller⟩
    | 0x7B => .ok ⟨some .object, start.skip 1, smaller⟩
    | 0x2D => do
      let length ← numeralLength (start.skip 1)
      .ok ⟨none, (start.skip 1).skip length, Nat.lt_of_le_of_lt (by simp) smaller⟩
    | _ =>
      if isDigit byte then do
        let length ← numeralLength start
        .ok ⟨none, start.skip (length - 1 + 1),
          Nat.lt_of_lt_of_le (Cursor.size_skip_lt h (length - 1)) cursor.size_skipBlank_le⟩
      else .error (start.peekFault .expectedValue)

/-- Where the next item may start: right after the opening bracket, or after a comma. -/
def itemStart (opened : Bool) (cursor : Cursor) : Cursor :=
  if opened then cursor else cursor.skipBlank.skip 1

theorem size_itemStart_le (opened : Bool) (cursor : Cursor) :
    (itemStart opened cursor).size ≤ cursor.size := by
  have := cursor.size_skipBlank_le
  cases opened <;> simp [itemStart]
  omega

mutual

/-- Passes over a value and over what is left of the brackets around it. -/
def skipValue (limit : Nat) (stack : List Bracket) (cursor : Cursor) (within : cursor.size ≤ limit) :
    Except Fault (Taken Unit limit) :=
  match skipStart cursor with
  | .error fault => .error fault
  | .ok taken =>
    have := taken.size_lt
    match taken.value with
    | none => skipRest limit stack false taken.next (by omega)
    | some bracket => skipRest limit (bracket :: stack) true taken.next (by omega)
termination_by 2 * cursor.size

/-- Passes over what is left of the open brackets, right after the innermost was opened or after an
item of it. -/
def skipRest (limit : Nat) (stack : List Bracket) (opened : Bool) (cursor : Cursor)
    (within : cursor.size < limit) : Except Fault (Taken Unit limit) :=
  match stack with
  | [] => .ok ⟨(), cursor, within⟩
  | bracket :: others =>
    have := cursor.size_skipBlank_le
    match h : cursor.skipBlank.rest with
    | [] => .error (cursor.skipBlank.peekFault bracket.endInside)
    | byte :: _ =>
      have : (cursor.skipBlank.skip 1).size < cursor.skipBlank.size := Cursor.size_skip_lt h 0
      if byte = bracket.close then skipRest limit others false (cursor.skipBlank.skip 1) (by omega)
      else if !opened && byte != 0x2C then .error (cursor.skipBlank.peekFault bracket.expectedEnd)
      else
        have := size_itemStart_le opened cursor
        match bracket with
        | .list => skipValue limit (.list :: others) (itemStart opened cursor) (by omega)
        | .object =>
          match skipName (itemStart opened cursor) with
          | .error fault => .error fault
          | .ok name =>
            have := name.size_lt
            skipValue limit (.object :: others) name.next (by omega)
termination_by 2 * cursor.size + 1

end

/-- Passes over one value. -/
def passOver : Reader Unit := .ofLimited fun limit ↦ skipValue limit []

end DefUse.Json
