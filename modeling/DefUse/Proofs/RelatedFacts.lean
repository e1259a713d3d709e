import DefUse.Proofs.Origin

/-!
# Related facts, selected and sliced

Showing the facts related to a selection starts from a fresh view; slicing to them works on the view at
hand, whose marks it clears and whose rows it hides and shows again. The main statement is that the two
differ in the hidden rows alone: a slice of which all rows are shown again is the view of the selection,
whatever was shown before.
-/

namespace DefUse

section Slice

variable (listing : Listing) (kind : FactKind) (addresses : AddressSet) (view : View)

theorem marks_sliceToRelated :
    (sliceToRelated listing kind (some addresses) view).marks =
      (showRelated listing kind addresses).marks := by
  simp only [sliceToRelated, showRelated, View.marks_showRows]
  -- Both mark the same elements, and neither has a mark to begin with.
  exact View.marks_markPair_congr listing _ _ rfl

theorem hidden_showRelated : (showRelated listing kind addresses).hidden = ∅ := by
  rw [showRelated, View.hidden_markPair]
  rfl

theorem showAllRows_sliceToRelated :
    (sliceToRelated listing kind (some addresses) view).showAllRows =
      showRelated listing kind addresses := by
  apply View.eq_of_parts
  · rw [View.marks_showAllRows, marks_sliceToRelated]
  · rw [View.hidden_showAllRows, hidden_showRelated]

end Slice

namespace Operation

section Selected

variable {listing : Listing} {kind : FactKind} {origin : ElementId} {selection : Selection}

theorem addresses_of_resolve (h : listing.resolve (.fact kind) origin = some selection) :
    addresses listing kind (some origin) = some selection.addresses := by
  rw [addresses, Option.bind_some, h, Option.map_some]

theorem bind_of_resolve (h : listing.resolve (.fact kind) origin = some selection) {mode : Mode}
    (hmode : mode ≠ .all) :
    Command.bind listing (.highlight mode kind) (some origin) =
      .ok ⟨.highlight mode kind, some origin⟩ := by
  have hnearest := Listing.nearest_of_resolve_eq_some h
  have horigin : origin ∈ listing.elements.map Element.id :=
    (Listing.isNearest_of_nearestIn (fun member hmember ↦ List.mem_reverse.1 hmember) hnearest).origin_mem
  have hfound : (listing.element? origin).isSome = true := by
    rw [Option.isSome_iff_ne_none]
    exact fun hnone ↦ (Listing.element?_eq_none_iff_not_mem listing origin).1 hnone horigin
  have hneeds : (Command.highlight mode kind).needsOrigin = true := by
    cases mode with
    | all => contradiction
    | selected => rfl
    | slice => rfl
  exact Command.bind_eq_ok_iff.2 (.inr ⟨hneeds, rfl, hfound⟩)

theorem apply_unslice_slice (h : listing.resolve (.fact kind) origin = some selection)
    (dropped : Option ElementId) (first second third : UInt64) (view other : View) :
    apply listing first ⟨.unslice, dropped⟩
        (apply listing second ⟨.highlight .slice kind, some origin⟩ view).view =
      apply listing third ⟨.highlight .selected kind, some origin⟩ other := by
  simp only [apply, addresses_of_resolve h]
  exact congrArg Transition.to (showAllRows_sliceToRelated listing kind selection.addresses view)

end Selected

/-- A slice marks what a selection marks, and with all rows shown again it is the view of the selection.
So to slice from an origin and undo the slice, from any view, makes the transition of a selection of the
origin from any other view. -/
theorem unslice_slice_eq_selected (listing : Listing) (kind : FactKind) :
    (∀ addresses view,
      (sliceToRelated listing kind (some addresses) view).marks =
        (showRelated listing kind addresses).marks ∧
      (sliceToRelated listing kind (some addresses) view).showAllRows =
        showRelated listing kind addresses) ∧
    ∀ origin selection, listing.resolve (.fact kind) origin = some selection →
      ∀ dropped, ∃ slice unslice selected : Operation,
        Command.bind listing (.highlight .slice kind) (some origin) = .ok slice ∧
        Command.bind listing .unslice dropped = .ok unslice ∧
        Command.bind listing (.highlight .selected kind) (some origin) = .ok selected ∧
        ∀ first second third view other,
          unslice.apply listing first (slice.apply listing second view).view =
            selected.apply listing third other := by
  refine ⟨fun addresses view ↦ ?_, fun origin selection h dropped ↦ ?_⟩
  · exact ⟨marks_sliceToRelated listing kind addresses view,
      showAllRows_sliceToRelated listing kind addresses view⟩
  · exact ⟨⟨.highlight .slice kind, some origin⟩, ⟨.unslice, none⟩,
      ⟨.highlight .selected kind, some origin⟩, bind_of_resolve h (by decide), rfl,
      bind_of_resolve h (by decide), apply_unslice_slice h none⟩

/-- The slice of the sample from the element inside the use hides the row of the second definition, until it
is undone. -/
theorem unslice_slice_eq_selected_sample :
    (Listing.sampleListing.resolve (.fact .binding) "g").isSome = true ∧
    (apply Listing.sampleListing 200 ⟨.highlight .slice .binding, some "g"⟩ .initial).view.hiddenRows =
      [2] ∧
    (apply Listing.sampleListing 200 ⟨.highlight .selected .binding, some "g"⟩ .initial).view.marked =
      [("d", .definition), ("u", .use)] ∧
    ∀ view other,
      apply Listing.sampleListing 200 ⟨.unslice, none⟩
          (apply Listing.sampleListing 200 ⟨.highlight .slice .binding, some "g"⟩ view).view =
        apply Listing.sampleListing 200 ⟨.highlight .selected .binding, some "g"⟩ other := by
  have hresolve : (Listing.sampleListing.resolve (.fact .binding) "g").isSome = true := by decide
  obtain ⟨selection, hselection⟩ := Option.isSome_iff_exists.1 hresolve
  obtain ⟨slice, unslice, selected, hslice, hunslice, hselected, h⟩ :=
    (unslice_slice_eq_selected Listing.sampleListing .binding).2 "g" selection hselection none
  obtain rfl : ⟨.highlight .slice .binding, some "g"⟩ = slice := Except.ok.inj hslice
  obtain rfl : ⟨.unslice, none⟩ = unslice := Except.ok.inj hunslice
  obtain rfl : ⟨.highlight .selected .binding, some "g"⟩ = selected := Except.ok.inj hselected
  exact ⟨hresolve, by decide +kernel, by decide +kernel, h 200 200 200⟩

end Operation

end DefUse
