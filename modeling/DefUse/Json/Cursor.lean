import DefUse.Json.Fault

/-!
# Places in a JSON text

A cursor is a place in the bytes of a text. A reader takes a value from a cursor and moves strictly
forward, which is what makes reading end.
-/

namespace DefUse.Json

/-- The number of bytes before a place and the bytes after it. -/
structure Cursor where
  offset : Nat
  rest : List UInt8

namespace Cursor

def size (cursor : Cursor) : Nat := cursor.rest.length

def skip (cursor : Cursor) (count : Nat) : Cursor :=
  ⟨cursor.offset + count, cursor.rest.drop count⟩

@[simp] theorem size_skip (cursor : Cursor) (count : Nat) :
    (cursor.skip count).size = cursor.size - count := by
  simp [skip, size]

theorem size_eq_of_rest {cursor : Cursor} {byte : UInt8} {rest : List UInt8}
    (h : cursor.rest = byte :: rest) : cursor.size = rest.length + 1 := by
  simp [size, h]

theorem size_skip_lt {cursor : Cursor} {byte : UInt8} {rest : List UInt8}
    (h : cursor.rest = byte :: rest) (count : Nat) : (cursor.skip (count + 1)).size < cursor.size := by
  rw [size_skip, size_eq_of_rest h]
  omega

def isBlank (byte : UInt8) : Bool := byte == 0x20 || byte == 0x0A || byte == 0x09 || byte == 0x0D

/-- The first place from here on that is not white space. -/
def skipBlank (cursor : Cursor) : Cursor := cursor.skip (cursor.rest.takeWhile isBlank).length

theorem size_skipBlank_le (cursor : Cursor) : cursor.skipBlank.size ≤ cursor.size := by
  simp [skipBlank]

theorem size_skipBlank_skip_lt {cursor : Cursor} {byte : UInt8} {rest : List UInt8}
    (h : cursor.skipBlank.rest = byte :: rest) : (cursor.skipBlank.skip 1).size < cursor.size :=
  Nat.lt_of_lt_of_le (size_skip_lt h 0) cursor.size_skipBlank_le

theorem size_skipBlank_skip_le (cursor : Cursor) : (cursor.skipBlank.skip 1).size ≤ cursor.size := by
  have := cursor.size_skipBlank_le
  rw [size_skip]
  omega

theorem size_skipBlank_skip_skipBlank_le (cursor : Cursor) :
    (cursor.skipBlank.skip 1).skipBlank.size ≤ cursor.size :=
  Nat.le_trans (size_skipBlank_le _) cursor.size_skipBlank_skip_le

/-- A fault seen by looking at the next byte, which counts as read; at the end there is none. -/
def peekFault (cursor : Cursor) (cause : Cause) : Fault := ⟨cause, cursor.offset + min 1 cursor.size⟩

/-- A fault seen after the bytes before this place. -/
def fault (cursor : Cursor) (cause : Cause) : Fault := ⟨cause, cursor.offset⟩

end Cursor

/-- A value and the place after it, with fewer than `limit` bytes to go. -/
structure Taken (α : Type) (limit : Nat) where
  value : α
  next : Cursor
  size_lt : next.size < limit

abbrev Reader (α : Type) := (cursor : Cursor) → Except Fault (Taken α cursor.size)

def Taken.map {α β : Type} {limit : Nat} (f : α → β) (taken : Taken α limit) : Taken β limit :=
  ⟨f taken.value, taken.next, taken.size_lt⟩

def Taken.widen {α : Type} {limit wider : Nat} (h : limit ≤ wider) (taken : Taken α limit) :
    Taken α wider :=
  ⟨taken.value, taken.next, Nat.lt_of_lt_of_le taken.size_lt h⟩

/-- The reader whose limit is all that stands behind its own start. -/
def Reader.ofLimited {α : Type}
    (read : (limit : Nat) → (cursor : Cursor) → cursor.size ≤ limit → Except Fault (Taken α limit)) :
    Reader α :=
  fun cursor ↦ read cursor.size cursor (Nat.le_refl _)

def Reader.map {α β : Type} (f : α → β) (reader : Reader α) : Reader β :=
  fun cursor ↦ (reader cursor).map (Taken.map f)

end DefUse.Json
