import DefUse.Command
import DefUse.Definition
import DefUse.Linked
import DefUse.Problem
import DefUse.Related

/-!
# Operations

An operation is a command bound to the element that it acts on. Binding checks the element; applying
turns one view into the next and never fails.
-/

namespace DefUse

structure Operation where
  command : Command
  origin : Option ElementId
deriving DecidableEq

def Command.ofName (name : String) : Except Problem Command :=
  match ofName? name with
  | some command => .ok command
  | none => .error (.unknownCommand name (suggestion name))

/-- Binds a command to an element of the listing, if it needs one; otherwise the element is
dropped. -/
def Command.bind (listing : Listing) (command : Command) (origin : Option ElementId) :
    Except Problem Operation :=
  if command.needsOrigin then
    match origin with
    | none => .error (.missingOrigin command.name)
    | some id =>
      match listing.element? id with
      | none => .error (.unknownElement id)
      | some _ => .ok ⟨command, some id⟩
  else .ok ⟨command, none⟩

namespace Operation

/-- The addresses that the origin stands for, for facts of a kind. -/
def addresses (listing : Listing) (kind : FactKind) (origin : Option ElementId) : Option AddressSet :=
  (origin.bind (listing.resolve (.fact kind))).map Selection.addresses

def apply (listing : Listing) (duration : UInt64) (operation : Operation) (view : View) : Transition :=
  match operation.command with
  | .erase => .to view.clearMarks
  | .unslice => .to view.showAllRows
  | .highlight .all kind => .to (showAll listing kind)
  | .highlight .selected kind =>
    match addresses listing kind operation.origin with
    | some addresses => .to (showRelated listing kind addresses)
    | none => .to .initial
  | .highlight .slice kind => .to (sliceToRelated listing kind (addresses listing kind operation.origin) view)
  | .goTo kind =>
    match operation.origin with
    | some origin => (goToDefinition listing duration kind origin view).1
    | none => .to view.clearMarks
  | .link =>
    match operation.origin with
    | some origin => .to (showLinked listing origin view)
    | none => .to view

/-- Applies an operation and tells how it navigated. Only going to a definition navigates. -/
def navigate (listing : Listing) (duration : UInt64) (operation : Operation) (view : View) :
    Transition × Option Navigation :=
  match operation.command, operation.origin with
  | .goTo kind, some origin =>
    let (transition, navigation) := goToDefinition listing duration kind origin view
    (transition, some navigation)
  | _, _ => (operation.apply listing duration view, none)

theorem navigate_fst (listing : Listing) (duration : UInt64) (operation : Operation) (view : View) :
    (operation.navigate listing duration view).1 = operation.apply listing duration view := by
  rcases operation with ⟨command, origin⟩
  cases command <;> cases origin <;> rfl

/-- The last of the transitions of operations applied in turn, from the initial view. -/
def replay (listing : Listing) (duration : UInt64) (operations : List Operation) : Transition :=
  operations.foldl (fun transition operation ↦ operation.apply listing duration transition.view)
    (.to .initial)

/-- Every operation with the transition that it makes when they are applied in turn. -/
def trace (listing : Listing) (duration : UInt64) :
    View → List Operation → List (Operation × Transition)
  | _, [] => []
  | view, operation :: rest =>
    let transition := operation.apply listing duration view
    (operation, transition) :: trace listing duration transition.view rest

end Operation

end DefUse
