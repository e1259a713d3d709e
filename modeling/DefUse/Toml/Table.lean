import DefUse.Toml.Value

/-!
# Tables of TOML

Headers and dotted keys name tables by the keys that lead to them, and make the tables on the way. A
table has at most one header, and a key at most one value.
-/

namespace DefUse.Toml

/-- How a table came about: by a header of its own, on the way to another table, or by dotted keys. -/
inductive Standing where
  | header
  | passage
  | dotted
deriving DecidableEq

/-- Items under keys, in the order in which they came about. -/
structure TableOf (item : Type) where
  standing : Standing
  span : Option Span
  entries : List (Key × item)

/-- A value with its place, a table, or tables in a row, of which there is at least one. -/
inductive Item where
  | value (value : Value) (span : Span)
  | table (table : TableOf Item)
  | tables (before : List (TableOf Item)) (last : TableOf Item)

abbrev Table := TableOf Item

def Item.found : Item → Found
  | .value content _ => .value content
  | .table _ => .table
  | .tables _ _ => .tables

/-- The place of an item. Only a table that has no header has none. -/
def Item.span : Item → Option Span
  | .value _ place => some place
  | .table content => content.span
  | .tables before last => do
    let first ← (before.headD last).span
    let final ← last.span
    some ⟨first.start, final.stop⟩

namespace TableOf

def empty (standing : Standing) : Table := ⟨standing, none, []⟩

def find? (table : Table) (name : String) : Option Item :=
  (table.entries.find? (·.1.name == name)).map Prod.snd

/-- Adds an item under a new key. -/
def append (table : Table) (key : Key) (item : Item) : Table :=
  { table with entries := table.entries ++ [(key, item)] }

/-- Puts an item in the place of the one under its name. -/
def replace (table : Table) (name : String) (item : Item) : Table :=
  { table with
    entries := table.entries.map fun entry ↦ if entry.1.name == name then (entry.1, item) else entry }

def remove (table : Table) (name : String) : Table :=
  { table with entries := table.entries.filter (·.1.name != name) }

/-- Changes the table that keys lead to from here, after the names passed before. Tables that are
missing are made, and of tables in a row the last is meant. Dotted keys do not lead into a table that
has a header. -/
def update (made : Standing) (change : Table → Except Reason Table) (passed : List String) :
    List Key → Table → Except Reason Table
  | [], table => change table
  | key :: rest, table =>
    let names := passed ++ [key.name]
    match table.find? key.name with
    | none => do
      let inner ← update made change names rest (empty made)
      .ok (table.append key (.table inner))
    | some (.value value _) => .error (.extendsValue names value.kind)
    | some (.table inner) =>
      if made = .dotted && inner.standing = .header then .error (.repeatedKey key.name none)
      else do
        let inner ← update made change names rest inner
        .ok (table.replace key.name (.table inner))
    | some (.tables before last) => do
      let last ← update made change names rest last
      .ok (table.replace key.name (.tables before last))

/-- Takes a value into the table it names. A table that is not made by dotted keys takes none from
them. -/
def insert (place : List String) (binding : Binding) (table : Table) : Except Reason Table :=
  let key := binding.path.key
  if !binding.path.tables.isEmpty && table.standing ≠ .dotted then .error (.repeatedKey key.name none)
  else if (table.find? key.name).isSome then .error (.repeatedKey key.name (some place))
  else .ok (table.append key (.value binding.value binding.span))

/-- Takes a binding into the table under the last header, whose names are `place`. -/
def bind (place : List String) (binding : Binding) (table : Table) : Except Reason Table := do
  let table ← table.update .dotted (insert place binding) [] binding.path.tables
  .ok { table with span := table.span.map fun span ↦ ⟨span.start, binding.span.stop⟩ }

end TableOf

/-- A header with its place. A double one opens one more of tables in a row. -/
structure Header where
  path : KeyPath
  double : Bool
  span : Span
deriving DecidableEq

/-- A name as a key: bare if it can be, and otherwise in the plainest quotes. -/
def keyText (name : String) : String :=
  let chars := name.toList
  let plain := chars.all isPlain
  if !chars.isEmpty && chars.all isBare then name
  else if plain && !chars.contains '"' && !chars.contains '\\' then "\"" ++ name ++ "\""
  else if plain && !chars.contains '\'' then "'" ++ name ++ "'"
  else Text.quoted name

/-- Opens the table of a header in the table around it. A table that was only passed so far moves to
the end. -/
def Header.openIn (header : Header) (table : Table) : Except Reason Table :=
  let key := header.path.key
  let repeated := Reason.repeatedKey (keyText key.name) (some (header.path.tables.map Key.name))
  let new (entries : List (Key × Item)) : Table := ⟨.header, some header.span, entries⟩
  match header.double, table.find? key.name with
  | true, none => .ok (table.append key (.tables [] (new [])))
  | true, some (.tables before last) =>
    .ok (table.replace key.name (.tables (before ++ [last]) (new [])))
  | false, none => .ok (table.append key (.table (new [])))
  | false, some (.table inner) =>
    if inner.standing = .passage then
      .ok ((table.remove key.name).append key (.table (new inner.entries)))
    else .error repeated
  | _, _ => .error repeated

end DefUse.Toml
