import DefUse.Selection
import DefUse.View

/-!
# Going to a definition

The targets of a selection are the navigable definitions that share an address with it. If their
address lists are all equal, the first target is scrolled to; otherwise the rows of the selection and
of the targets are shown alone.
-/

namespace DefUse

inductive Navigation where
  | ambiguous
  | noTarget
  | unresolved
  | unique
deriving DecidableEq

def Navigation.name : Navigation → String
  | .ambiguous => "ambiguous"
  | .noTarget => "no-target"
  | .unresolved => "unresolved"
  | .unique => "unique"

def defaultDuration : UInt64 := 200

/-- The navigable definitions that share an address with the set. -/
def targets (listing : Listing) (kind : NavKind) (addresses : AddressSet) : List Element :=
  (listing.tagged (TagPair.navigable kind).definition).filter fun element ↦
    addresses.intersects element.addresses

/-- All elements have the address list of the first. -/
def agree : List Element → Bool
  | [] => true
  | first :: others => others.all (·.addresses = first.addresses)

def goToDefinition (listing : Listing) (duration : UInt64) (kind : NavKind) (origin : ElementId)
    (view : View) : Transition × Navigation :=
  match listing.resolve (.navigable kind) origin with
  | none => (.to view.clearMarks, .unresolved)
  | some selection =>
    let found := targets listing kind selection.addresses
    let marked := (view.clearMarks.mark selection.element.id .use).markAll found .target
    match found with
    | [] => (.to marked, .noTarget)
    | first :: _ =>
      if agree found then (⟨marked, some ⟨duration, first.id, first.row⟩⟩, .unique)
      else
        (.to ((marked.hideAllRows listing).showRows (selection.element.row :: found.map Element.row)),
          .ambiguous)

end DefUse
