import DefUse.Proofs.ExactHighlighting

/-!
# Being related, both ways

A selection is resolved and its addresses are made a set, against which the address lists of all facts are
held. The main statement is that nothing of this shows: a fact is highlighted from another exactly if the other
is highlighted from it, and from itself exactly if it has an address. What is highlighted from any selection
has the mark that it has among all facts of the kind.
-/

namespace DefUse

namespace Element

theorem sharesAddress_comm (element other : Element) :
    element.SharesAddress other ↔ other.SharesAddress element := by
  simp only [SharesAddress, and_comm]

theorem sharesAddress_self_iff (element : Element) :
    element.SharesAddress element ↔ element.addresses ≠ [] := by
  simp only [SharesAddress, and_self, ne_eq, List.eq_nil_iff_forall_not_mem, not_forall, not_not]

/-- The set of the addresses of an element is held against a list of addresses. -/
theorem isRelatedFact_ofList_iff (element selected : Element) (kind : FactKind) :
    element.IsRelatedFact kind (.ofList selected.addresses) ↔
      element.IsFact kind ∧ selected.SharesAddress element := by
  simp only [IsRelatedFact, IsFact, SharesAddress, AddressSet.ofList, mem_firstOccurrences,
    and_comm (a := _ ∈ element.addresses)]

end Element

/-- Related facts have the marks that they have among all facts of the kind. -/
theorem View.MarksRelated.markOf_showAll {listing : Listing} {kind : FactKind} {addresses : AddressSet}
    {view : View} (h : view.MarksRelated listing kind addresses) (hlisting : listing.WellFormed)
    {id : ElementId} {mark : Mark} (hmark : view.markOf id = some mark) :
    (showAll listing kind).markOf id = some mark := by
  obtain ⟨element, helement, hid, hrelated, hfact⟩ := (h id mark).1 hmark
  exact (markOf_showAll_eq_some_iff hlisting).2 ⟨element, helement, hid, hrelated.1, hfact⟩

namespace Operation

section Highlighting

variable {listing : Listing} {mode : Mode} {kind : FactKind} {origin : Option ElementId}

/-- A fact stands for itself. -/
theorem resolve_of_isFact (hlisting : listing.WellFormed) {element : Element}
    (helement : element ∈ listing.elements) (hfact : element.IsFact kind) :
    listing.resolve (.fact kind) element.id = some ⟨element, .ofList element.addresses⟩ := by
  rw [Listing.resolve, (Listing.nearest_eq_some_iff hlisting).2 (.here helement hfact), Option.map_some]

theorem addresses_of_standsFor (hlisting : listing.WellFormed) {selected : Element}
    (hselected : listing.StandsFor (.fact kind) origin selected) :
    addresses listing kind origin = some (.ofList selected.addresses) := by
  rw [addresses_eq_map, (Listing.bind_nearest_eq_some_iff hlisting).2 hselected, Option.map_some]

/-- From a selection, sliced to or not, the facts related to it are marked. -/
theorem marksRelated_apply (hlisting : listing.WellFormed) (hmode : mode ≠ .all) {selected : Element}
    (hselected : listing.StandsFor (.fact kind) origin selected) (duration : UInt64) (view : View) :
    (apply listing duration ⟨.highlight mode kind, origin⟩ view).view.MarksRelated listing kind
      (.ofList selected.addresses) := by
  have haddresses := addresses_of_standsFor hlisting hselected
  cases mode with
  | all => contradiction
  | selected =>
    simp only [apply, haddresses]
    exact marksRelated_showRelated hlisting
  | slice =>
    simp only [apply, haddresses]
    exact marksRelated_sliceToRelated hlisting view

/-- Without a selection, nothing is marked or the view stays as it is. -/
theorem apply_highlight_of_not_standsFor (hlisting : listing.WellFormed)
    (hnone : ¬∃ selected, listing.StandsFor (.fact kind) origin selected) (duration : UInt64) (view : View) :
    (apply listing duration ⟨.highlight .selected kind, origin⟩ view).view = .initial ∧
      (apply listing duration ⟨.highlight .slice kind, origin⟩ view).view = view := by
  have hnearest : origin.bind (listing.nearest (.fact kind)) = none := by
    rw [Option.eq_none_iff_forall_ne_some]
    intro selected hselected
    exact hnone ⟨selected, (Listing.bind_nearest_eq_some_iff hlisting).1 hselected⟩
  simp only [apply, addresses_eq_map, hnearest, Option.map_none]
  exact ⟨rfl, rfl⟩

/-- Highlighting from the first element marks the second. -/
def Highlights (listing : Listing) (mode : Mode) (kind : FactKind) (duration : UInt64) (view : View)
    (selected element : Element) : Prop :=
  ((apply listing duration ⟨.highlight mode kind, some selected.id⟩ view).view.markOf element.id).isSome = true

/-- Which facts are highlighted from a fact is a matter of the addresses that they share. -/
theorem highlights_iff (hlisting : listing.WellFormed) (hmode : mode ≠ .all) {selected element : Element}
    (hselected : selected ∈ listing.elements) (hfact : selected.IsFact kind)
    (helement : element ∈ listing.elements) (duration : UInt64) (view : View) :
    Highlights listing mode kind duration view selected element ↔
      element.IsFact kind ∧ selected.SharesAddress element := by
  have hstands : listing.StandsFor (.fact kind) (some selected.id) selected :=
    ⟨selected.id, rfl, .here hselected hfact⟩
  unfold Highlights
  rw [(marksRelated_apply hlisting hmode hstands duration view).isSome_markOf_iff,
    ← Element.isRelatedFact_ofList_iff]
  constructor
  · rintro ⟨other, hother, hid, hrelated⟩
    rwa [← List.inj_on_of_nodup_map hlisting.ids_nodup hother helement hid]
  · intro hrelated
    exact ⟨element, helement, rfl, hrelated⟩

end Highlighting

/-- In every listing that is read, for every kind of facts, whether they are sliced to or not: of two facts
each is highlighted from the other or neither is, from any views; a fact is highlighted from itself exactly if
it has an address; and a mark that is made from a selection is the one that the element has among all facts.
Without a selection no mark is made. -/
theorem highlights_symmetric {source : String} {listing : Listing} (hread : Listing.ofText source = .ok listing)
    (kind : FactKind) {mode : Mode} (hmode : mode = .selected ∨ mode = .slice) :
    (∀ first ∈ listing.elements, first.IsFact kind →
      Command.bind listing (.highlight mode kind) (some first.id) =
        .ok ⟨.highlight mode kind, some first.id⟩ ∧
      (∀ second ∈ listing.elements, second.IsFact kind → ∀ duration view otherDuration otherView,
        (Highlights listing mode kind duration view first second ↔
          Highlights listing mode kind otherDuration otherView second first)) ∧
      ∀ duration view, Highlights listing mode kind duration view first first ↔ first.addresses ≠ []) ∧
    (∀ origin selected, listing.StandsFor (.fact kind) origin selected → ∀ duration view id mark,
      (apply listing duration ⟨.highlight mode kind, origin⟩ view).view.markOf id = some mark →
      ∀ dropped otherDuration otherView,
        (apply listing otherDuration ⟨.highlight .all kind, dropped⟩ otherView).view.markOf id = some mark) ∧
    ∀ origin, (¬∃ selected, listing.StandsFor (.fact kind) origin selected) → ∀ duration view,
      (apply listing duration ⟨.highlight mode kind, origin⟩ view).view =
        if mode = .slice then view else .initial := by
  have hlisting : listing.WellFormed := .ofText hread
  have hnotAll : mode ≠ .all := by
    rintro rfl
    simp at hmode
  refine ⟨fun first hfirst hfact ↦ ⟨?_, ?_, ?_⟩, ?_, ?_⟩
  · exact bind_of_resolve (resolve_of_isFact hlisting hfirst hfact) hnotAll
  · intro second hsecond hother duration view otherDuration otherView
    rw [highlights_iff hlisting hnotAll hfirst hfact hsecond,
      highlights_iff hlisting hnotAll hsecond hother hfirst, Element.sharesAddress_comm]
    simp only [hfact, hother]
  · intro duration view
    rw [highlights_iff hlisting hnotAll hfirst hfact hfirst, Element.sharesAddress_self_iff,
      and_iff_right hfact]
  · intro origin selected hselected duration view id mark hmark dropped otherDuration otherView
    exact (marksRelated_apply hlisting hnotAll hselected duration view).markOf_showAll hlisting hmark
  · intro origin hnone duration view
    have hsame := apply_highlight_of_not_standsFor hlisting hnone duration view
    rcases hmode with rfl | rfl
    · exact hsame.1
    · exact hsame.2

/-- In the sample the definition and a use have the same addresses in another order. Each is highlighted from
the other, whatever was shown before, and the use bears the mark that it has among all variables. -/
theorem highlights_symmetric_overlapping :
    Listing.ofText overlappingSource = .ok overlappingListing ∧
    overlappingDefinition.IsFact .binding ∧ overlappingOther.IsFact .binding ∧
    overlappingDefinition.addresses ≠ overlappingOther.addresses ∧
    (∀ duration view,
      Highlights overlappingListing .slice .binding duration view overlappingOther overlappingDefinition) ∧
    (∀ duration view,
      Highlights overlappingListing .slice .binding duration view overlappingOther overlappingOther) ∧
    ∀ duration dropped view,
      (apply overlappingListing duration ⟨.highlight .all .binding, dropped⟩ view).view.markOf "v" =
        some .use := by
  have hdefinition : overlappingDefinition.IsFact .binding := by decide
  have hother : overlappingOther.IsFact .binding := by decide
  obtain ⟨hfacts, hmarks, -⟩ := highlights_symmetric ofText_overlappingSource .binding (.inr rfl)
  obtain ⟨-, hsymmetric, -⟩ := hfacts overlappingDefinition (by decide) hdefinition
  obtain ⟨-, -, hself⟩ := hfacts overlappingOther (by decide) hother
  have hthere : Highlights overlappingListing .slice .binding 200 .initial overlappingDefinition
      overlappingOther := by
    unfold Highlights
    decide +kernel
  have hback (duration : UInt64) (view : View) :=
    (hsymmetric overlappingOther (by decide) hother 200 .initial duration view).1 hthere
  have hmark : (apply overlappingListing 200 ⟨.highlight .slice .binding, some "d"⟩ .initial).view.markOf "v" =
      some .use := by
    decide +kernel
  refine ⟨ofText_overlappingSource, hdefinition, hother, by decide, hback, fun duration view ↦ ?_,
    fun duration dropped view ↦ ?_⟩
  · exact (hself duration view).2 (by decide)
  · exact hmarks (some "d") overlappingDefinition ⟨"d", rfl, .here (by decide) hdefinition⟩ 200 .initial "v"
      .use hmark dropped duration view

end Operation

end DefUse
