import DefUse.Toml.DateTime
import DefUse.Toml.Key
import DefUse.Toml.Number

/-!
# Values of TOML

The first character of a value tells what it is. Arrays may run over several lines and end with a
comma; inline tables may do neither, and none of their keys may repeat another.
-/

namespace DefUse.Toml

/-- A stop where a string was most likely meant. -/
def notQuoted : Stop := ((Stop.after 0).inside .string).expecting [.mark "\"", .mark "'"]

def scanWord (text : String) (value : Value) (input : List Char) : Except Stop (Value × Nat) :=
  if word text input then .ok (value, text.length) else .error notQuoted

/-- A value that holds no others. -/
def scalar (input : List Char) : Except Stop (Value × Nat) :=
  match input with
  | [] => .error (.after 0)
  | c :: _ =>
    if isQuote c then (string input).map fun (text, count) ↦ (.string text, count)
    else if c = '+' || c = '-' || c.isDigit then
      match dateTime input with
      | some result => result
      | none => number input
    else if c = '_' then .error (((Stop.after 0).inside .integer).expecting [.leadingDigit])
    else if c = '.' then .error (((Stop.after 0).inside .float).expecting [.leadingDigit])
    else if c = 't' then scanWord "true" (.boolean true) input
    else if c = 'f' then scanWord "false" (.boolean false) input
    else
      match specialFloat input with
      | some found => .ok found
      | none => .error notQuoted

/-- The text starts like a value. What does not ends an array. -/
def startsValue (input : List Char) : Bool :=
  (specialFloat input).isSome ||
    match input with
    | c :: rest =>
      isQuote c || c.isDigit || ['[', '\x7b', 't', 'f'].contains c ||
        ((c = '+' || c = '-') && rest.head?.any Char.isDigit)
    | [] => false

/-- A mark that closes a construct. -/
def closing (mark : Char) (construct : Construct) : Reader Unit := fun cursor ↦
  if cursor.rest.head? = some mark then .ok ⟨(), cursor.skip 1, cursor.size_skip_le 1⟩
  else .error ((cursor.stop.inside construct).expecting [.mark (toString mark)])

/-- The elements of an array and its closing bracket. -/
def elements (item : Reader Value) (cursor : Cursor) : Except Stop (Taken Unit cursor.size) :=
  match cursor.take (blankLines 0 false) with
  | .error stop => .error stop
  | .ok blank =>
    let start := blank.next
    have startLe : start.size ≤ cursor.size := blank.size_le
    if startsValue start.rest then
      match item start with
      | .error stop => .error stop
      | .ok found =>
        match found.next.take (blankLines 0 false) with
        | .error _ => .error ((start.stop.inside .array).expecting [.mark "]"])
        | .ok after =>
          let next := after.next
          have nextLe : next.size ≤ cursor.size :=
            Nat.le_trans after.size_le (Nat.le_trans found.size_le startLe)
          match h : next.rest with
          | ',' :: _ =>
            have shorter : (next.skip 1).size < next.size := by simp [Cursor.size, Cursor.skip, h]
            match elements item (next.skip 1) with
            | .error stop => .error stop
            | .ok taken => .ok (taken.widen (by omega))
          | _ =>
            match closing ']' .array next with
            | .error stop => .error stop
            | .ok taken => .ok (taken.widen nextLe)
    else
      match closing ']' .array start with
      | .error stop => .error stop
      | .ok taken => .ok (taken.widen startLe)
termination_by cursor.size
decreasing_by exact Nat.lt_of_lt_of_le shorter nextLe

/-- A value under a key. -/
structure Binding where
  path : KeyPath
  value : Value
  span : Span
deriving DecidableEq

/-- A key, the mark between, and a value. -/
def binding (item : Reader Value) (cursor : Cursor) :
    Except Stop (Taken Binding (cursor.size - 1)) :=
  match keyPath cursor with
  | .error stop => .error stop
  | .ok path =>
    match h : path.next.rest with
    | '=' :: _ =>
      have shorter : (path.next.skip 1).size < path.next.size := by
        simp [Cursor.size, Cursor.skip, h]
      let start := (path.next.skip 1).skipSpaces
      have startLt : start.size < cursor.size :=
        Nat.lt_of_le_of_lt (Cursor.size_skipSpaces_le _) (Nat.lt_of_lt_of_le shorter path.size_le)
      match item start with
      | .error stop => .error stop
      | .ok found =>
        .ok ⟨⟨path.value, found.value, start.spanTo found.next⟩, found.next,
          Nat.le_trans found.size_le (Nat.le_sub_one_of_lt startLt)⟩
    | _ => .error (path.next.stop.expecting [.mark ".", .mark "="])

/-- The bindings of an inline table from here on. A comma without a key after it is not part of
them. -/
def bindings (item : Reader Value) (cursor : Cursor) :
    Except Stop (Taken (List Binding) cursor.size) :=
  match binding item cursor with
  | .error stop => .error stop
  | .ok found =>
    let next := found.next.skipSpaces
    have nextLe : next.size ≤ cursor.size :=
      Nat.le_trans (Cursor.size_skipSpaces_le _) (Nat.le_trans found.size_le (Nat.sub_le _ _))
    match h : next.rest with
    | ',' :: rest =>
      if startsKey (rest.drop (spaceCount rest)) then
        have shorter : (next.skip 1).size < next.size := by simp [Cursor.size, Cursor.skip, h]
        match bindings item (next.skip 1) with
        | .error stop => .error stop
        | .ok others =>
          .ok ⟨found.value :: others.value, others.next,
            Nat.le_trans others.size_le (Nat.le_of_lt (Nat.lt_of_lt_of_le shorter nextLe))⟩
      else .ok ⟨[found.value], next, nextLe⟩
    | _ => .ok ⟨[found.value], next, nextLe⟩
termination_by cursor.size
decreasing_by exact Nat.lt_of_lt_of_le shorter nextLe

/-- The bindings of an inline table, of which there may be none. -/
def inlineBindings (item : Reader Value) : Reader (List Binding) := fun cursor ↦
  let start := cursor.skipSpaces
  if startsKey start.rest then bindings item cursor
  else .ok ⟨[], start, cursor.size_skipSpaces_le⟩

/-- What an inline table holds, each value by all the names that lead to it. -/
abbrev InlineEntries := List (List String × Value)

/-- The names lead through a value that is there already. -/
def InlineEntries.blocked (entries : InlineEntries) (names : List String) : Option Reason :=
  (entries.find? fun entry ↦ entry.1 == names).map fun (path, value) ↦
    match value, path.getLast? with
    | .inlineTable, some name => .repeatedKey name none
    | _, _ => .extendsValue path value.kind

/-- Adds a value to an inline table. Dotted keys make tables on the way, which others may extend. -/
def InlineEntries.add (entries : InlineEntries) (binding : Binding) : Except Reason InlineEntries :=
  let tables := binding.path.tables.map Key.name
  let names := tables ++ [binding.path.key.name]
  match (List.range tables.length).findSome? fun index ↦ entries.blocked (tables.take (index + 1)) with
  | some reason => .error reason
  | none =>
    if entries.any fun entry ↦ names.isPrefixOf entry.1 then
      .error (.repeatedKey binding.path.key.name none)
    else .ok ((names, binding.value) :: entries)

/-- An inline table after its opening brace. -/
def inlineTable (item : Reader Value) : Reader Unit := fun cursor ↦
  match inlineBindings item cursor with
  | .error stop => .error stop
  | .ok found =>
    match found.value.foldlM InlineEntries.add [] with
    | .error reason => .error (cursor.stop.because reason)
    | .ok _ =>
      match closing '\x7d' .inlineTable found.next with
      | .error stop => .error stop
      | .ok taken => .ok (taken.widen found.size_le)

/-- What stands between brackets, as a value. -/
def bracketed (content : Reader Unit) (kind : Value) : Reader Value := fun cursor ↦
  match content (cursor.skip 1) with
  | .error stop => .error stop
  | .ok taken =>
    .ok ⟨kind, taken.next, Nat.le_trans taken.size_le (cursor.size_skip_le 1)⟩

/-- A value with at most `levels` others around each other inside it. -/
def valueWithin : Nat → Reader Value
  | 0 => fun cursor ↦
    if cursor.rest.head?.any fun c ↦ c = '[' || c = '\x7b' then .error (cursor.stop.because .tooDeep)
    else cursor.take scalar
  | levels + 1 => fun cursor ↦
    match cursor.rest.head? with
    | some '[' => bracketed (elements (valueWithin levels)) .array cursor
    | some '\x7b' => bracketed (inlineTable (valueWithin levels)) .inlineTable cursor
    | _ => cursor.take scalar

def value : Reader Value := valueWithin maxDepth

end DefUse.Toml
