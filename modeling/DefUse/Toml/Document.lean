import DefUse.Toml.Table

/-!
# TOML documents

A document binds values to keys, line by line. A header tells in which table the bindings after it
are.
-/

namespace DefUse.Toml

/-- All tables read so far, and the keys of the last header. -/
structure Document where
  root : Table
  current : List Key

namespace Document

def empty : Document := ⟨.empty .header, []⟩

/-- Takes a binding into the current table. -/
def bind (document : Document) (binding : Binding) : Except Reason Document := do
  let place := document.current.map Key.name
  let root ← document.root.update .passage (TableOf.bind place binding) [] document.current
  .ok { document with root }

/-- Makes the table of a header the current one. -/
def openTable (document : Document) (header : Header) : Except Reason Document := do
  let root ← document.root.update .passage header.openIn [] header.path.tables
  .ok ⟨root, header.path.keys⟩

end Document

/-- The closing brackets of a header. -/
def headerEnd (double : Bool) : Reader Unit := fun cursor ↦
  let mark := if double then "]]" else "]"
  if word mark cursor.rest then .ok ⟨(), cursor.skip mark.length, cursor.size_skip_le _⟩
  else .error (cursor.stop.expecting [.mark ".", .mark mark])

/-- A header with `more` opening brackets after the first. -/
def headerAfter (more : Nat) (cursor : Cursor) : Except Stop (Taken Header (cursor.size - 1)) :=
  let double := more = 1
  match keyPath (cursor.skip (more + 1)) with
  | .error stop => .error stop
  | .ok path =>
    match headerEnd double path.next with
    | .error stop => .error stop
    | .ok closed =>
      .ok ⟨⟨path.value, double, cursor.spanTo closed.next⟩, closed.next,
        Nat.le_trans closed.size_le (Nat.le_trans path.size_le (cursor.size_skip_succ_le more))⟩

/-- A header from its opening brackets on. -/
def header (cursor : Cursor) : Except Stop (Taken Header (cursor.size - 1)) :=
  match cursor.rest with
  | '[' :: '[' :: _ => headerAfter 1 cursor
  | '[' :: _ :: _ => headerAfter 0 cursor
  | _ => .error cursor.stop

/-- What a line of a document holds. -/
inductive Line where
  | blank
  | binding (binding : Binding)
  | header (header : Header)

/-- The end of the line after what it holds. -/
def endLine {limit : Nat} (content : Line) (next : Cursor) (h : next.size ≤ limit) :
    Except Stop (Taken Line limit) :=
  match next.take lineEnd with
  | .error stop => .error stop
  | .ok taken => .ok ⟨content, taken.next, Nat.le_trans taken.size_le h⟩

/-- A line that starts here. -/
def line (cursor : Cursor) : Except Stop (Taken Line (cursor.size - 1)) :=
  match cursor.rest with
  | '#' :: rest =>
    let next := cursor.skip ((rest.takeWhile isPlain).length + 1)
    have nextLe : next.size ≤ cursor.size - 1 := cursor.size_skip_succ_le _
    if next.rest.isEmpty then .ok ⟨.blank, next, nextLe⟩
    else
      match lineBreak next.rest with
      | some width => .ok ⟨.blank, next.skip width, Nat.le_trans (next.size_skip_le width) nextLe⟩
      | none => .error next.stop
  | '\n' :: _ => .ok ⟨.blank, cursor.skip 1, cursor.size_skip_succ_le 0⟩
  | '\r' :: '\n' :: _ => .ok ⟨.blank, cursor.skip 2, cursor.size_skip_succ_le 1⟩
  | '\r' :: _ => .error cursor.stop
  | '[' :: _ =>
    explain (·.inside .tableHeader) <|
      match header cursor with
      | .error stop => .error stop
      | .ok found => endLine (.header found.value) found.next found.size_le
  | _ =>
    match binding value cursor with
    | .error stop => .error stop
    | .ok found => endLine (.binding found.value) found.next found.size_le

/-- Takes a line that starts at a place into a document. -/
def Document.addLine (document : Document) (cursor : Cursor) : Line → Except Stop Document
  | .blank => .ok document
  | .binding binding =>
    match document.bind binding with
    | .ok document => .ok document
    | .error reason => .error (cursor.stop.because reason)
  | .header header =>
    match document.openTable header with
    | .ok document => .ok document
    | .error reason => .error ((cursor.stop.because reason).inside .tableHeader)

/-- Takes all lines from a place on into a document. -/
def Document.addLines (document : Document) (cursor : Cursor) : Except Stop Document :=
  let start := cursor.skipSpaces
  if h : start.rest = [] then .ok document
  else
    match line start with
    | .error stop => .error stop
    | .ok found =>
      have : found.next.size < cursor.size :=
        Nat.lt_of_le_of_lt found.size_le
          (Nat.lt_of_lt_of_le (Nat.sub_lt (List.length_pos_iff.mpr h) Nat.one_pos)
            cursor.size_skipSpaces_le)
      match document.addLine start found.value with
      | .error stop => .error stop
      | .ok document => document.addLines found.next
termination_by cursor.size

/-- A name of the outermost table with what it stands for. -/
structure Entry where
  key : Key
  found : Found
  span : Span
deriving DecidableEq

def Document.entries (document : Document) : List Entry :=
  document.root.entries.map fun (key, item) ↦ ⟨key, item.found, item.span.getD key.span⟩

/-- The entries of a text, which may start with a byte order mark. -/
def document (text : List Char) : Except Fault (List Entry) :=
  let start : Cursor := ⟨0, text⟩
  let start := if text.head? = some '\ufeff' then start.skip 1 else start
  match Document.empty.addLines start with
  | .ok document => .ok document.entries
  | .error stop => .error (.ofStop text.length stop)

end DefUse.Toml
