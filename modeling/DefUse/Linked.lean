import DefUse.Selection
import DefUse.View

/-!
# Linked definitions and uses

Elements are linked if their address lists are equal, order and repeats included.
-/

namespace DefUse

/-- Marks what is linked to the selection, which itself is marked as the definition. A definition is
shown with its uses, a use with the other uses and the definitions. Without a linked element at or
around the origin the view stays as it is. -/
def showLinked (listing : Listing) (origin : ElementId) (view : View) : View :=
  match listing.nearest .linked origin with
  | none => view
  | some selected =>
    let isLinked (element : Element) : Bool := element.addresses = selected.addresses
    let marked :=
      match selected.roleIn .linked with
      | some .definition =>
        view.clearMarks.markAll ((listing.tagged TagPair.linked.use).filter isLinked) .use
      | _ => view.clearMarks.markPair listing .linked isLinked
    marked.mark selected.id .definition

end DefUse
