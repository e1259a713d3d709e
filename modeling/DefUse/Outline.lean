import DefUse.Address
import DefUse.Tag

/-!
# Outlines

An outline is a listing as its author wrote it: rows of nested elements. The elements of a row form a
forest, whose nodes carry texts at first and addresses and tags once these have been read.
-/

namespace DefUse

abbrev ElementId := String

/-- A node and the nodes inside it. -/
inductive Tree (α : Type) where
  | node (label : α) (children : List (Tree α))

namespace Tree

mutual

def map {α β : Type} (f : α → β) : Tree α → Tree β
  | .node label children => .node (f label) (mapAll f children)

def mapAll {α β : Type} (f : α → β) : List (Tree α) → List (Tree β)
  | [] => []
  | tree :: rest => tree.map f :: mapAll f rest

end

end Tree

/-- An element as it is written. -/
structure Draft where
  address : String
  classes : String
  id : String
  text : String
deriving DecidableEq

/-- An element whose addresses and tags have been read. -/
structure Label where
  id : ElementId
  addresses : List Address
  tags : List Tag
  text : String
deriving DecidableEq

def Draft.read (draft : Draft) : Label :=
  ⟨draft.id, addressesOf draft.address, Tag.ofClass draft.classes, draft.text⟩

/-- A row with its line number, if it has one. -/
structure OutlineRow (α : Type) where
  line : Option UInt32
  text : String
  trees : List (Tree α)

/-- The rows of a listing, in order. -/
structure Outline (α : Type) where
  rows : List (OutlineRow α)

def OutlineRow.map {α β : Type} (f : α → β) (row : OutlineRow α) : OutlineRow β :=
  ⟨row.line, row.text, Tree.mapAll f row.trees⟩

def Outline.map {α β : Type} (f : α → β) (outline : Outline α) : Outline β :=
  ⟨outline.rows.map (·.map f)⟩

end DefUse
