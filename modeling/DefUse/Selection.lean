import DefUse.Listing

/-!
# Selections

A selected element stands for the nearest element at or around it that has a role in the pair of tags
that is asked for, and for the addresses of that element.
-/

namespace DefUse

/-- Climbs from an origin to the elements around it. The elements are given last first, so that those
around an element come after it. -/
def nearestIn (pair : TagPair) : ElementId → List Element → Option Element
  | _, [] => none
  | origin, element :: earlier =>
    if element.id = origin then
      if (element.roleIn pair).isSome then some element
      else
        match element.parent with
        | some parent => nearestIn pair parent earlier
        | none => none
    else nearestIn pair origin earlier

/-- The nearest element at or around the origin with a role in the pair. -/
def Listing.nearest (listing : Listing) (pair : TagPair) (origin : ElementId) : Option Element :=
  nearestIn pair origin listing.elements.reverse

structure Selection where
  element : Element
  addresses : AddressSet
deriving DecidableEq

def Listing.resolve (listing : Listing) (pair : TagPair) (origin : ElementId) : Option Selection :=
  (listing.nearest pair origin).map fun element ↦ ⟨element, AddressSet.ofList element.addresses⟩

end DefUse
