import DefUse.Json.Value
import DefUse.Settings
import DefUse.Text.Quoted

/-!
# Reports

A report is what a transition shows of its listing: the marked elements in the order in which they are
written, the rows in and out of sight, and the scrolling that is asked for. It is printed as text or as
JSON.
-/

namespace DefUse

structure MarkedElement where
  addresses : List Address
  element : ElementId
  mark : Mark
  row : Nat
  text : String
deriving DecidableEq

structure Report where
  hiddenRows : List Nat
  marks : List MarkedElement
  scroll : Option Scroll
  visibleRows : List Nat
deriving DecidableEq

namespace Report

def ofTransition (listing : Listing) (transition : Transition) : Report :=
  let view := transition.view
  let rows := listing.rows.map Row.index
  { hiddenRows := rows.filter fun row ↦ !view.isVisible row
    marks := listing.elements.filterMap fun element ↦
      (view.markOf element.id).map fun mark ↦
        ⟨element.addresses, element.id, mark, element.row, element.text⟩
    scroll := transition.scroll
    visibleRows := rows.filter view.isVisible }

def padLeft (width : Nat) (text : String) : String :=
  String.ofList (List.replicate (width - text.length) ' ') ++ text

def padRight (width : Nat) (text : String) : String :=
  text ++ String.ofList (List.replicate (width - text.length) ' ')

/-- The number in front of a row: its line, or its place if it has none. -/
def lineNumber (row : Row) : Nat :=
  match row.line with
  | some line => line.toNat
  | none => row.index + 1

def markLine (marked : MarkedElement) : String :=
  "      | " ++ padRight 4 marked.mark.name ++ " " ++ marked.element ++ " " ++ Text.quoted marked.text ++
    " [" ++ ",".intercalate marked.addresses ++ "]"

/-- A visible row with the marked elements in it. -/
def rowLines (report : Report) (row : Row) : List String :=
  (padLeft 5 (toString (lineNumber row)) ++ " | " ++ row.text) ::
    (report.marks.filter (·.row == row.index)).map markLine

/-- One line in place of a run of hidden rows. -/
def runLines : Nat → List String
  | 0 => []
  | 1 => ["  ... | (1 row hidden)"]
  | count => [s!"  ... | ({count} rows hidden)"]

/-- The lines of rows that come after a run of hidden ones. -/
def bodyLines (report : Report) (run : Nat) : List Row → List String
  | [] => runLines run
  | row :: rest =>
    if report.visibleRows.contains row.index then
      runLines run ++ report.rowLines row ++ report.bodyLines 0 rest
    else report.bodyLines (run + 1) rest

def scrollLine (scroll : Scroll) : String :=
  "scroll: " ++ scroll.element ++ " (" ++ rowName scroll.row ++ ") within " ++
    toString scroll.duration.toNat ++ " ms"

def text (listing : Listing) (report : Report) : String :=
  let lines := report.bodyLines 0 listing.rows ++ report.scroll.toList.map scrollLine
  String.join (lines.map (· ++ "\n"))

open Json (Value)

def scrollValue (scroll : Scroll) : Value :=
  .object [("duration_ms", .number scroll.duration.toNat), ("element", .string scroll.element),
    ("row", .number scroll.row)]

def markValue (marked : MarkedElement) : Value :=
  .object [("addresses", .ofList .string marked.addresses), ("element", .string marked.element),
    ("mark", .string marked.mark.name), ("row", .number marked.row), ("text", .string marked.text)]

def value (report : Report) : Value :=
  .object [("hidden_rows", .ofList .number report.hiddenRows), ("marks", .ofList markValue report.marks),
    ("scroll", .ofOption scrollValue report.scroll), ("visible_rows", .ofList .number report.visibleRows)]

def render (listing : Listing) (report : Report) : Format → String
  | .json => report.value.pretty
  | .text => report.text listing

end Report

end DefUse
