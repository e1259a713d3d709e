import DefUse.Definition
import DefUse.Proofs.Marking

/-!
# Selections and navigation

The element that stands for an origin is an element of the listing with a role in the pair that is asked
for. Going to a definition has four outcomes; each is given here by one equation, under what leads to it.
-/

namespace DefUse

theorem Element.roleIn_isSome_iff (element : Element) (pair : TagPair) :
    (element.roleIn pair).isSome = true ↔ pair.definition ∈ element.tags ∨ pair.use ∈ element.tags := by
  unfold roleIn
  by_cases hdefinition : pair.definition ∈ element.tags
  · simp [hdefinition]
  · by_cases huse : pair.use ∈ element.tags <;> simp [hdefinition, huse]

theorem nearestIn_eq_some {pair : TagPair} {origin : ElementId} {elements : List Element}
    {element : Element} (h : nearestIn pair origin elements = some element) :
    element ∈ elements ∧ (element.roleIn pair).isSome = true := by
  induction elements generalizing origin with
  | nil => simp [nearestIn] at h
  | cons first earlier ih =>
    have hearlier {start : ElementId} (hstart : nearestIn pair start earlier = some element) :
        element ∈ first :: earlier ∧ (element.roleIn pair).isSome = true :=
      ⟨List.mem_cons_of_mem _ (ih hstart).1, (ih hstart).2⟩
    rw [nearestIn] at h
    by_cases hid : first.id = origin
    · rw [if_pos hid] at h
      by_cases hrole : (first.roleIn pair).isSome = true
      · rw [if_pos hrole] at h
        rw [← Option.some.inj h]
        exact ⟨List.mem_cons_self, hrole⟩
      · rw [if_neg hrole] at h
        cases hparent : first.parent with
        | none => simp [hparent] at h
        | some parent =>
          rw [hparent] at h
          exact hearlier h
    · rw [if_neg hid] at h
      exact hearlier h

namespace Listing

variable {listing : Listing} {pair : TagPair} {origin : ElementId}

theorem mem_of_nearest_eq_some {element : Element} (h : listing.nearest pair origin = some element) :
    element ∈ listing.elements :=
  List.mem_reverse.1 (nearestIn_eq_some h).1

theorem tags_of_nearest_eq_some {element : Element} (h : listing.nearest pair origin = some element) :
    pair.definition ∈ element.tags ∨ pair.use ∈ element.tags :=
  (element.roleIn_isSome_iff pair).1 (nearestIn_eq_some h).2

theorem nearest_of_resolve_eq_some {selection : Selection}
    (h : listing.resolve pair origin = some selection) :
    listing.nearest pair origin = some selection.element := by
  obtain ⟨element, hnearest, rfl⟩ := Option.map_eq_some_iff.1 h
  exact hnearest

end Listing

theorem mem_targets {listing : Listing} {kind : NavKind} {addresses : AddressSet} {element : Element} :
    element ∈ targets listing kind addresses ↔
      element ∈ listing.elements ∧ (TagPair.navigable kind).definition ∈ element.tags ∧
        addresses.intersects element.addresses = true := by
  rw [targets, List.mem_filter, Listing.mem_tagged, and_assoc]

/-! ## The outcomes of going to a definition -/

/-- The marks of a navigation: the selection as a use, then the targets, one of which may be the
selection. -/
def View.markTargets (listing : Listing) (kind : NavKind) (selection : Selection) (view : View) : View :=
  (view.clearMarks.mark selection.element.id .use).markAll
    (targets listing kind selection.addresses) .target

/-- What the outcome depends on: whether an element stands for the origin, whether it has targets, and
whether these agree. -/
theorem outcome_cases (listing : Listing) (kind : NavKind) (origin : ElementId) :
    listing.resolve (.navigable kind) origin = none ∨
    ∃ selection, listing.resolve (.navigable kind) origin = some selection ∧
      (targets listing kind selection.addresses = [] ∨
        (∃ first rest, targets listing kind selection.addresses = first :: rest ∧
          agree (first :: rest) = true) ∨
        agree (targets listing kind selection.addresses) = false) := by
  cases listing.resolve (.navigable kind) origin with
  | none => exact .inl rfl
  | some selection =>
    refine .inr ⟨selection, rfl, ?_⟩
    cases targets listing kind selection.addresses with
    | nil => exact .inl rfl
    | cons first rest =>
      cases hagree : agree (first :: rest) with
      | true => exact .inr (.inl ⟨first, rest, rfl, hagree⟩)
      | false => exact .inr (.inr rfl)

section Outcomes

variable {listing : Listing} {kind : NavKind} {origin : ElementId} {selection : Selection}
  (duration : UInt64) (view : View)

theorem goToDefinition_unresolved (h : listing.resolve (.navigable kind) origin = none) :
    goToDefinition listing duration kind origin view = (.to view.clearMarks, .unresolved) := by
  simp only [goToDefinition, h]

theorem goToDefinition_noTarget (h : listing.resolve (.navigable kind) origin = some selection)
    (hfound : targets listing kind selection.addresses = []) :
    goToDefinition listing duration kind origin view =
      (.to (view.markTargets listing kind selection), .noTarget) := by
  simp only [goToDefinition, View.markTargets, h, hfound]

theorem goToDefinition_unique {first : Element} {rest : List Element}
    (h : listing.resolve (.navigable kind) origin = some selection)
    (hfound : targets listing kind selection.addresses = first :: rest)
    (hagree : agree (first :: rest) = true) :
    goToDefinition listing duration kind origin view =
      (⟨view.markTargets listing kind selection, some ⟨duration, first.id, first.row⟩⟩, .unique) := by
  simp only [goToDefinition, View.markTargets, h, hfound, hagree, if_true]

theorem goToDefinition_ambiguous (h : listing.resolve (.navigable kind) origin = some selection)
    (hagree : agree (targets listing kind selection.addresses) = false) :
    goToDefinition listing duration kind origin view =
      (.to (((view.markTargets listing kind selection).hideAllRows listing).showRows
        (selection.element.row :: (targets listing kind selection.addresses).map Element.row)),
        .ambiguous) := by
  simp only [goToDefinition, View.markTargets, h]
  cases hfound : targets listing kind selection.addresses with
  | nil => simp [hfound, agree] at hagree
  | cons first rest => simp only [hfound] at hagree; simp [hagree]

end Outcomes

end DefUse
