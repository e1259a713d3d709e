import DefUse.Listing

/-!
# Growing a listing

A listing grows along the forests of an outline, one element after the other and a node before the nodes
inside it. With every element grow the elements, the index and the ids of the row. Growth stops at the first
id that is blank or has been taken. An element that repeats an address is taken as it is, with a warning.
-/

namespace DefUse

/-- A warning that an element repeats an address, with the addresses as they are written. -/
structure Warning where
  id : ElementId
  address : String
deriving DecidableEq

/-- Some address stands behind itself. -/
def repeatsAddress (addresses : List Address) : Bool :=
  addresses.zipIdx.any fun (address, place) ↦ (addresses.take place).contains address

def Draft.warning? (draft : Draft) : Option Warning :=
  if repeatsAddress draft.read.addresses then some ⟨draft.id, draft.address⟩ else none

namespace Listing

/-- A listing as far as it has grown, with the ids of the row that is being read and the warnings. -/
structure Growth where
  listing : Listing
  rowIds : List ElementId
  warnings : List Warning

/-- Where growth stops, there is no listing, but the warnings stand. -/
structure Refused where
  fault : Fault
  warnings : List Warning
deriving DecidableEq

namespace Growth

def empty : Growth := ⟨⟨[], [], ∅, rfl⟩, [], []⟩

def add (growth : Growth) (element : Element) (warning : Option Warning) : Growth where
  listing :=
    { growth.listing with
      elements := growth.listing.elements ++ [element]
      index := growth.listing.index.insert element.id growth.listing.elements.length
      index_eq := by rw [growth.listing.index_eq, indexOf_concat] }
  rowIds := growth.rowIds ++ [element.id]
  warnings := growth.warnings ++ warning.toList

/-- Takes in a draft that stands in a row, inside a parent. -/
def push (row : Nat) (parent : Option ElementId) (growth : Growth) (draft : Draft) :
    Except Refused Growth :=
  if (Text.trim draft.id.toList).isEmpty then .error ⟨.blankId row, growth.warnings⟩
  else if growth.listing.index.contains draft.id then
    .error ⟨.repeatedId draft.id row, growth.warnings⟩
  else .ok (growth.add (draft.read.element row parent) draft.warning?)

mutual

def pushTree (row : Nat) (parent : Option ElementId) (growth : Growth) :
    Tree Draft → Except Refused Growth
  | .node draft children => do
    let grown ← growth.push row parent draft
    pushForest row (some draft.id) grown children

def pushForest (row : Nat) (parent : Option ElementId) (growth : Growth) :
    List (Tree Draft) → Except Refused Growth
  | [] => .ok growth
  | tree :: rest => do
    let grown ← pushTree row parent growth tree
    pushForest row parent grown rest

end

/-- Takes in a row with all of its elements. -/
def pushRow (growth : Growth) (row : OutlineRow Draft) (place : Nat) : Except Refused Growth := do
  let grown ← pushForest place none { growth with rowIds := [] } row.trees
  let rows := grown.listing.rows ++ [⟨place, row.line, row.text, grown.rowIds⟩]
  .ok { grown with listing := { grown.listing with rows } }

/-- Takes in the rows of an outline in order. -/
def ofOutline (outline : Outline Draft) : Except Refused Growth :=
  outline.rows.zipIdx.foldlM (fun growth (row, place) ↦ growth.pushRow row place) empty

end Growth

end Listing

end DefUse
