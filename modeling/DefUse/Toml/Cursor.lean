import DefUse.Toml.Fault

/-!
# Places in a TOML text

A cursor is a place in the characters of a text. A scan looks at what stands there and tells how many
characters it is made of, so that the place behind it is never farther from the end of the text.
-/

namespace DefUse.Toml

/-- What a text starts with and the number of its characters. -/
abbrev Scan (α : Type) := List Char → Except Stop (α × Nat)

/-- The number of characters before a place and the characters after it. -/
structure Cursor where
  offset : Nat
  rest : List Char

/-- What stands at a place and the place behind it, with at most `limit` characters to go. -/
structure Taken (α : Type) (limit : Nat) where
  value : α
  next : Cursor
  size_le : next.rest.length ≤ limit

namespace Cursor

def size (cursor : Cursor) : Nat := cursor.rest.length

def skip (cursor : Cursor) (count : Nat) : Cursor :=
  ⟨cursor.offset + count, cursor.rest.drop count⟩

theorem size_skip_le (cursor : Cursor) (count : Nat) : (cursor.skip count).size ≤ cursor.size := by
  simp [skip, size]

theorem size_skip_succ_le (cursor : Cursor) (count : Nat) :
    (cursor.skip (count + 1)).size ≤ cursor.size - 1 := by
  simp [skip, size]
  omega

def stop (cursor : Cursor) : Stop := .after cursor.offset

def spanTo (cursor next : Cursor) : Span := ⟨cursor.offset, next.offset⟩

def take {α : Type} (cursor : Cursor) (scan : Scan α) : Except Stop (Taken α cursor.size) :=
  match scan cursor.rest with
  | .error stop => .error (stop.shift cursor.offset)
  | .ok (value, count) => .ok ⟨value, cursor.skip count, cursor.size_skip_le count⟩

end Cursor

abbrev Reader (α : Type) := (cursor : Cursor) → Except Stop (Taken α cursor.size)

def Taken.widen {α : Type} {limit wider : Nat} (taken : Taken α limit) (h : limit ≤ wider) :
    Taken α wider :=
  ⟨taken.value, taken.next, Nat.le_trans taken.size_le h⟩

/-- The result of a scan after its stops have been explained. -/
def explain {α : Type} (note : Stop → Stop) : Except Stop α → Except Stop α
  | .error stop => .error (note stop)
  | .ok value => .ok value

end DefUse.Toml
