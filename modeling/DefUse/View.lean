import DefUse.Listing
import Std.Data.ExtTreeMap
import Std.Data.ExtTreeSet

/-!
# Views

A view says which elements of a listing are marked and which of its rows are hidden. Two views that
show the same are equal. An operation turns a view into a transition, which may ask to scroll.
-/

namespace DefUse

inductive Mark where
  | definition
  | target
  | use
deriving DecidableEq

def Mark.name : Mark → String
  | .definition => "def"
  | .target => "goto"
  | .use => "use"

structure View where
  marks : Std.ExtTreeMap ElementId Mark
  hidden : Std.ExtTreeSet Nat
deriving DecidableEq

/-- An element to bring into view, within a time in milliseconds. -/
structure Scroll where
  duration : UInt64
  element : ElementId
  row : Nat
deriving DecidableEq

structure Transition where
  view : View
  scroll : Option Scroll
deriving DecidableEq

namespace View

/-- No marks, and every row in sight. -/
def initial : View := ⟨∅, ∅⟩

def clearMarks (view : View) : View := { view with marks := ∅ }

def showAllRows (view : View) : View := { view with hidden := ∅ }

def hideAllRows (listing : Listing) (view : View) : View :=
  { view with hidden := Std.ExtTreeSet.ofList (listing.rows.map Row.index) }

def showRow (view : View) (row : Nat) : View := { view with hidden := view.hidden.erase row }

def showRows (view : View) (rows : List Nat) : View := rows.foldl showRow view

def isVisible (view : View) (row : Nat) : Bool := !view.hidden.contains row

def markOf (view : View) (id : ElementId) : Option Mark := view.marks[id]?

/-- Marks an element, in place of the mark it had. -/
def mark (view : View) (id : ElementId) (mark : Mark) : View :=
  { view with marks := view.marks.insert id mark }

def markAll (view : View) (elements : List Element) (mark : Mark) : View :=
  elements.foldl (fun view element ↦ view.mark element.id mark) view

/-- Marks uses and definitions of a pair; what is both is marked as a definition. -/
def markPair (listing : Listing) (pair : TagPair) (keep : Element → Bool) (view : View) : View :=
  (view.markAll ((listing.tagged pair.use).filter keep) .use).markAll
    ((listing.tagged pair.definition).filter keep) .definition

/-- The marked elements, ordered by id. -/
def marked (view : View) : List (ElementId × Mark) := view.marks.toList

def hiddenRows (view : View) : List Nat := view.hidden.toList

end View

/-- A transition that asks for no scrolling. -/
def Transition.to (view : View) : Transition := ⟨view, none⟩

end DefUse
