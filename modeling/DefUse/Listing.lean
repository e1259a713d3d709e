import DefUse.Outline
import Std.Data.ExtTreeMap

/-!
# Listings

A listing holds the elements of an outline in the order in which they are written, each with the row
and the element around it. An index leads from an id to the place of its element. No id is blank, and
none occurs twice.
-/

namespace DefUse

structure Element where
  id : ElementId
  parent : Option ElementId
  row : Nat
  text : String
  addresses : List Address
  tags : List Tag
deriving DecidableEq

/-- The role of an element for a pair of tags; the definition comes first. -/
def Element.roleIn (element : Element) (pair : TagPair) : Option Role :=
  if pair.definition ∈ element.tags then some .definition
  else if pair.use ∈ element.tags then some .use
  else none

structure Row where
  index : Nat
  line : Option UInt32
  text : String
  elements : List ElementId
deriving DecidableEq

/-- How messages name a row. -/
def rowName (index : Nat) : String := s!"row {index}"

namespace Listing

/-- The places of elements by their ids; of elements with the same id the last one counts. -/
def indexOf (elements : List Element) : Std.ExtTreeMap ElementId Nat :=
  elements.zipIdx.foldl (fun index (element, place) ↦ index.insert element.id place) ∅

theorem indexOf_concat (elements : List Element) (element : Element) :
    indexOf (elements ++ [element]) = (indexOf elements).insert element.id elements.length := by
  simp [indexOf, List.zipIdx_append]

end Listing

structure Listing where
  rows : List Row
  elements : List Element
  index : Std.ExtTreeMap ElementId Nat
  index_eq : index = Listing.indexOf elements
deriving DecidableEq

namespace Listing

def element? (listing : Listing) (id : ElementId) : Option Element :=
  listing.index[id]?.bind fun place ↦ listing.elements[place]?

/-- The elements that carry a tag, in order. -/
def tagged (listing : Listing) (tag : Tag) : List Element :=
  listing.elements.filter (tag ∈ ·.tags)

/-- Why an outline is no listing. -/
inductive Fault where
  | blankId (row : Nat)
  | repeatedId (id : ElementId) (row : Nat)
deriving DecidableEq

def Fault.reason : Fault → String
  | .blankId row => "element with empty id in " ++ rowName row
  | .repeatedId id row => s!"duplicate element id `{id}` in " ++ rowName row

end Listing

def Label.element (label : Label) (row : Nat) (parent : Option ElementId) : Element :=
  ⟨label.id, parent, row, label.text, label.addresses, label.tags⟩

end DefUse
