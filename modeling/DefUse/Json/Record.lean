import DefUse.Json.Skip

/-!
# Typed values in a JSON text

A text is read straight into the value that is wanted, so a wrong type and a wrong spelling are found
in the order in which they stand. A record is an object with named fields, or an array of its fields
in their order. Brackets may be nested only so deep.
-/

namespace DefUse.Json

/-- What stands here in place of something expected. A scalar is read to its end first, and a fault
inside it comes before the wrong type. -/
def mismatch (expected : String) (cursor : Cursor) : Fault :=
  let wrong (found : Found) (place : Cursor) : Fault := place.fault (.invalidType found expected)
  let wordTail (tail : List UInt8) (found : Found) : Fault :=
    match word tail (cursor.skip 1) with
    | .error fault => fault
    | .ok next => wrong found next
  let number (negative : Bool) (start : Cursor) : Fault :=
    match numeral negative start with
    | .error fault => fault
    | .ok (value, next) => wrong value.found next
  match cursor.rest with
  | [] => cursor.peekFault .expectedValue
  | byte :: _ =>
    match byte.toNat with
    | 0x6E => wordTail nullTail .null
    | 0x74 => wordTail trueTail (.boolean true)
    | 0x66 => wordTail falseTail (.boolean false)
    | 0x22 =>
      match stringTail .read (cursor.skip 1) with
      | .error fault => fault
      | .ok text => wrong (.string text.value) text.next
    | 0x5B => wrong .sequence cursor
    | 0x7B => wrong .map cursor
    | 0x2D => number true (cursor.skip 1)
    | _ => if isDigit byte then number false cursor else cursor.peekFault .expectedValue

def text : Reader String := fun cursor ↦
  let start := cursor.skipBlank
  match start.rest with
  | [] => .error (start.peekFault .endInValue)
  | byte :: _ =>
    if byte = 0x22 then
      (stringTail .read (start.skip 1)).map (Taken.widen cursor.size_skipBlank_skip_le)
    else .error (mismatch "a string" start)

/-- An unsigned number of 32 bits, or nothing. -/
def optionalWord32 : Reader (Option UInt32) := fun cursor ↦
  let start := cursor.skipBlank
  match h : start.rest with
  | [] => .error (start.peekFault .endInValue)
  | byte :: _ =>
    have smaller : (start.skip 1).size < cursor.size := Cursor.size_skipBlank_skip_lt h
    if byte = 0x6E then
      match found : word nullTail (start.skip 1) with
      | .error fault => .error fault
      | .ok next => .ok ⟨none, next, Nat.lt_of_le_of_lt (size_word_le found) smaller⟩
    else if byte = 0x2D || isDigit byte then
      match numeral (byte = 0x2D) (if byte = 0x2D then start.skip 1 else start) with
      | .error fault => .error fault
      | .ok (.float bits, next) => .error (next.fault (.invalidType (.float bits) "u32"))
      | .ok (.integer value, next) =>
        if 0 ≤ value && value < Nat.pow 2 32 then
          .ok ⟨some value.toNat.toUInt32, start.skip (next.offset - start.offset - 1 + 1),
            Nat.lt_of_lt_of_le (Cursor.size_skip_lt h _) cursor.size_skipBlank_le⟩
        else .error (next.fault (.invalidValue value "u32"))
    else .error (mismatch "u32" start)

/-- Where an array goes on: at its next item, or after its end. -/
inductive Turn (limit : Nat) where
  | item (start : Cursor) (within : start.size ≤ limit)
  | done (after : Cursor) (within : after.size < limit)

def nextItem (first : Bool) (cursor : Cursor) : Except Fault (Turn cursor.size) :=
  let start := cursor.skipBlank
  match h : start.rest with
  | [] => .error (start.peekFault .endInList)
  | byte :: _ =>
    if byte = 0x5D then .ok (.done (start.skip 1) (Cursor.size_skipBlank_skip_lt h))
    else if first then .ok (.item start cursor.size_skipBlank_le)
    else if byte = 0x2C then
      let next := (start.skip 1).skipBlank
      match next.rest with
      | [] => .error (next.peekFault .endInValue)
      | byte :: _ =>
        if byte = 0x5D then .error (next.peekFault .trailingComma)
        else .ok (.item next cursor.size_skipBlank_skip_skipBlank_le)
    else .error (start.peekFault .expectedListEnd)

/-- The items of an array from here to its end, after those read before, last first. -/
def items {α : Type} (item : Reader α) (limit : Nat) (before : List α) (first : Bool) (cursor : Cursor)
    (within : cursor.size ≤ limit) : Except Fault (Taken (List α) limit) :=
  match nextItem first cursor with
  | .error fault => .error fault
  | .ok (.done after h) => .ok ⟨before.reverse, after, Nat.lt_of_lt_of_le h within⟩
  | .ok (.item start h) =>
    match item start with
    | .error fault => .error fault
    | .ok taken =>
      have := taken.size_lt
      items item limit (taken.value :: before) false taken.next (by omega)
termination_by cursor.size

/-- An array, whose items have one level of brackets less. -/
def sequence {α : Type} (levels : Nat) (item : (inner : Nat) → inner < levels → Reader α) :
    Reader (List α) := fun cursor ↦
  let start := cursor.skipBlank
  match start.rest with
  | [] => .error (start.peekFault .endInValue)
  | byte :: _ =>
    if byte = 0x5B then
      match levels with
      | 0 => .error (start.peekFault .nestedTooDeep)
      | inner + 1 =>
        items (item inner (Nat.lt_succ_self inner)) cursor.size [] true (start.skip 1)
          cursor.size_skipBlank_skip_le
    else .error (mismatch "a sequence" start)

/-- A field of a record, and how its value is read into the record. -/
structure RecordField (α : Type) where
  name : String
  required : Bool
  read : α → Reader α

/-- The first required field without a value, and its place among the fields. -/
def firstMissing {α : Type} (fields : List (RecordField α)) (seen : List String) : Option (Nat × String) :=
  fields.zipIdx.findSome? fun (field, index) ↦
    if field.required && !seen.contains field.name then some (index, field.name) else none

/-- Where an object goes on: at the quote of its next name, or after its end. -/
def nextName (first : Bool) (cursor : Cursor) : Except Fault (Turn cursor.size) :=
  let start := cursor.skipBlank
  match h : start.rest with
  | [] => .error (start.peekFault .endInObject)
  | byte :: _ =>
    if byte = 0x7D then .ok (.done (start.skip 1) (Cursor.size_skipBlank_skip_lt h))
    else if first then
      if byte = 0x22 then .ok (.item start cursor.size_skipBlank_le)
      else .error (start.peekFault .keyNotString)
    else if byte = 0x2C then
      let next := (start.skip 1).skipBlank
      match next.rest with
      | [] => .error (next.peekFault .endInValue)
      | byte :: _ =>
        if byte = 0x22 then .ok (.item next cursor.size_skipBlank_skip_skipBlank_le)
        else if byte = 0x7D then .error (next.peekFault .trailingComma)
        else .error (next.peekFault .keyNotString)
    else .error (start.peekFault .expectedObjectEnd)

/-- A repeated field is noticed before its value is looked at, after the white space behind its name
and a brace that ends the object there. -/
def duplicateFault (name : String) (cursor : Cursor) : Fault :=
  let start := cursor.skipBlank
  (if start.rest.head? = some 0x7D then start.skip 1 else start).fault (.duplicateField name)

/-- The fields of an object from here to its end. Values of unknown names are passed over. -/
def namedFields {α : Type} (fields : List (RecordField α)) (limit : Nat) (seen : List String) (value : α)
    (first : Bool) (cursor : Cursor) (within : cursor.size ≤ limit) : Except Fault (Taken α limit) :=
  match nextName first cursor with
  | .error fault => .error fault
  | .ok (.done after h) =>
    match firstMissing fields seen with
    | some (_, name) => .error (after.fault (.missingField name))
    | none => .ok ⟨value, after, Nat.lt_of_lt_of_le h within⟩
  | .ok (.item start h) =>
    match stringTail .read (start.skip 1) with
    | .error fault => .error fault
    | .ok name =>
      have := name.size_lt
      have : (start.skip 1).size ≤ start.size := by simp
      match fields.find? (·.name == name.value) with
      | some field =>
        if seen.contains field.name then .error (duplicateFault field.name name.next)
        else
          match colon name.next with
          | .error fault => .error fault
          | .ok mark =>
            have := mark.size_lt
            match field.read value mark.next with
            | .error fault => .error fault
            | .ok taken =>
              have := taken.size_lt
              namedFields fields limit (field.name :: seen) taken.value false taken.next (by omega)
      | none =>
        match colon name.next with
        | .error fault => .error fault
        | .ok mark =>
          have := mark.size_lt
          match passOver mark.next with
          | .error fault => .error fault
          | .ok taken =>
            have := taken.size_lt
            namedFields fields limit seen value false taken.next (by omega)
termination_by cursor.size

/-- The end of an array that holds a value for every field. -/
def listEnd : Reader Unit := fun cursor ↦
  let start := cursor.skipBlank
  match h : start.rest with
  | [] => .error (start.peekFault .endInList)
  | byte :: _ =>
    if byte = 0x5D then
      .ok ⟨(), start.skip 1, Cursor.size_skipBlank_skip_lt h⟩
    else if byte = 0x2C then
      let next := (start.skip 1).skipBlank
      if next.rest.head? = some 0x5D then .error (next.peekFault .trailingComma)
      else .error (next.peekFault .trailingCharacters)
    else .error (start.peekFault .trailingCharacters)

/-- The fields of an array in their order. The array may end early, if no required field is left. -/
def listedFields {α : Type} (kind : String) (fields : List (RecordField α)) (limit : Nat) :
    List (RecordField α) → List String → α → Bool → (cursor : Cursor) → cursor.size ≤ limit →
      Except Fault (Taken α limit)
  | [], _, value, _, cursor, within =>
    (listEnd cursor).map fun ending ↦ ⟨value, ending.next, Nat.lt_of_lt_of_le ending.size_lt within⟩
  | field :: others, seen, value, first, cursor, within =>
    match nextItem first cursor with
    | .error fault => .error fault
    | .ok (.done after h) =>
      match firstMissing fields seen with
      | some (index, _) =>
        .error (after.fault (.invalidLength index s!"struct {kind} with {fields.length} elements"))
      | none => .ok ⟨value, after, Nat.lt_of_lt_of_le h within⟩
    | .ok (.item start h) =>
      match field.read value start with
      | .error fault => .error fault
      | .ok taken =>
        listedFields kind fields limit others (field.name :: seen) taken.value false taken.next (by
          have := taken.size_lt
          omega)

/-- A record, whose fields have one level of brackets less. It starts from `blank`. -/
def record {α : Type} (kind : String) (levels : Nat) (blank : α)
    (fields : (inner : Nat) → inner < levels → List (RecordField α)) : Reader α := fun cursor ↦
  let start := cursor.skipBlank
  match start.rest with
  | [] => .error (start.peekFault .endInValue)
  | byte :: _ =>
    have within : (start.skip 1).size ≤ cursor.size := cursor.size_skipBlank_skip_le
    if byte = 0x5B || byte = 0x7B then
      match levels with
      | 0 => .error (start.peekFault .nestedTooDeep)
      | inner + 1 =>
        let fields := fields inner (Nat.lt_succ_self inner)
        if byte = 0x5B then listedFields kind fields cursor.size fields [] blank true (start.skip 1) within
        else namedFields fields cursor.size [] blank true (start.skip 1) within
    else .error (mismatch s!"struct {kind}" start)

/-- The deepest nesting of brackets in a value that is read. -/
def maxLevels : Nat := 127

/-- Reads a text that holds one value and nothing else. -/
def readAll {α : Type} (reader : Reader α) (source : String) : Except Mistake α :=
  let bytes := source.toUTF8.toList
  let outcome : Except Fault α := do
    let taken ← reader ⟨0, bytes⟩
    let rest := taken.next.skipBlank
    if rest.rest.isEmpty then .ok taken.value else .error (rest.peekFault .trailingCharacters)
  outcome.mapError (·.locate bytes)

end DefUse.Json
