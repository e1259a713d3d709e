import DefUse.View

/-!
# Facts of a kind and facts related to a selection

An element is related to a set of addresses if it carries one of them. Showing marks the facts in a
fresh view; slicing also hides every row without a related fact.
-/

namespace DefUse

/-- A view in which all definitions and uses of the kind are marked. -/
def showAll (listing : Listing) (kind : FactKind) : View :=
  View.initial.markPair listing (.fact kind) fun _ ↦ true

def isRelated (addresses : AddressSet) (element : Element) : Bool := addresses.intersects element.addresses

/-- A view in which the related definitions and uses of the kind are marked. -/
def showRelated (listing : Listing) (kind : FactKind) (addresses : AddressSet) : View :=
  View.initial.markPair listing (.fact kind) (isRelated addresses)

/-- The related definitions and uses of the kind. -/
def relatedFacts (listing : Listing) (kind : FactKind) (addresses : AddressSet) : List Element :=
  (listing.elements.filter fun element ↦ (element.roleIn (.fact kind)).isSome).filter
    (isRelated addresses)

/-- Marks the related facts and nothing else, and shows their rows and no others. Without addresses
the view stays as it is. -/
def sliceToRelated (listing : Listing) (kind : FactKind) (addresses : Option AddressSet) (view : View) :
    View :=
  match addresses with
  | none => view
  | some addresses =>
    ((view.clearMarks.hideAllRows listing).markPair listing (.fact kind) (isRelated addresses)).showRows
      ((relatedFacts listing kind addresses).map Element.row)

end DefUse
