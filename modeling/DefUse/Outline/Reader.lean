import DefUse.Json.Record
import DefUse.Outline

/-!
# Outlines in JSON

An outline is written as a record of rows, a row as a record of elements, and an element as a record
that may hold further elements. Only the id of an element has to be there.
-/

namespace DefUse.Outline

open Json

/-- A field whose value is a text. -/
def textField {α : Type} (name : String) (required : Bool) (set : α → String → α) : RecordField α :=
  ⟨name, required, fun value ↦ text.map (set value)⟩

/-- An element with the elements inside it. -/
def element (levels : Nat) : Reader (Tree Draft) :=
  (record "RawElement" levels ((⟨"", "", "", ""⟩, []) : Draft × List (Tree Draft)) fun inner _ ↦
    [textField "address" false fun value text ↦ ({ value.1 with address := text }, value.2),
     ⟨"children", false, fun value ↦
       (sequence inner fun deeper _ ↦ element deeper).map fun trees ↦ (value.1, trees)⟩,
     textField "class" false fun value text ↦ ({ value.1 with classes := text }, value.2),
     textField "id" true fun value text ↦ ({ value.1 with id := text }, value.2),
     textField "text" false fun value text ↦ ({ value.1 with text := text }, value.2)]).map
    fun value ↦ .node value.1 value.2
termination_by levels

def row (levels : Nat) : Reader (OutlineRow Draft) :=
  record "RawRow" levels ⟨none, "", []⟩ fun inner _ ↦
    [⟨"elements", false, fun value ↦
       (sequence inner fun deeper _ ↦ element deeper).map fun trees ↦ { value with trees := trees }⟩,
     ⟨"line", false, fun value ↦ optionalWord32.map fun line ↦ { value with line := line }⟩,
     textField "text" false fun value text ↦ { value with text := text }]

def outline (levels : Nat) : Reader (Outline Draft) :=
  record "RawListing" levels ⟨[]⟩ fun inner _ ↦
    [⟨"rows", false, fun _ ↦ (sequence inner fun deeper _ ↦ row deeper).map Outline.mk⟩]

/-- Reads an outline from its JSON text. -/
def ofText (source : String) : Except Mistake (Outline Draft) := readAll (outline maxLevels) source

end DefUse.Outline
