import DefUse.Proofs.ExactNavigation

/-!
# Highlighting, exactly

The main statements say which elements are marked, and how, once the facts related to some addresses or the
elements linked to a selection are highlighted, and which rows a slice leaves in sight. They leave nothing of
the view before but what an operation keeps of it.
-/

namespace DefUse

/-- A definition or use of the kind. -/
def Element.IsFact (element : Element) (kind : FactKind) : Prop :=
  (TagPair.fact kind).definition ∈ element.tags ∨ (TagPair.fact kind).use ∈ element.tags

instance (element : Element) (kind : FactKind) : Decidable (element.IsFact kind) :=
  inferInstanceAs (Decidable (_ ∨ _))

/-- A definition or use of the kind that carries one of the addresses. -/
def Element.IsRelatedFact (element : Element) (kind : FactKind) (addresses : AddressSet) : Prop :=
  ((TagPair.fact kind).definition ∈ element.tags ∨ (TagPair.fact kind).use ∈ element.tags) ∧
    ∃ address ∈ element.addresses, address ∈ addresses.addresses

instance (element : Element) (kind : FactKind) (addresses : AddressSet) :
    Decidable (element.IsRelatedFact kind addresses) :=
  inferInstanceAs (Decidable (_ ∧ ∃ address ∈ element.addresses, address ∈ addresses.addresses))

/-- The mark of a fact: a definition is marked as such, also if it is a use too. -/
def Element.factMark (element : Element) (kind : FactKind) : Mark :=
  if (TagPair.fact kind).definition ∈ element.tags then .definition else .use

namespace View

/-- The view marks the related facts of the kind, by their roles, and nothing else. -/
def MarksRelated (view : View) (listing : Listing) (kind : FactKind) (addresses : AddressSet) : Prop :=
  ∀ id mark, view.markOf id = some mark ↔
    ∃ element ∈ listing.elements, element.id = id ∧ element.IsRelatedFact kind addresses ∧
      mark = element.factMark kind

section Marks

variable {listing : Listing} {view : View}

/-- Of a view that marks nothing else, the marks are those of the elements of the listing. -/
theorem MarksWithin.markOf_eq_some_iff (h : view.MarksWithin listing) {id : ElementId} {mark : Mark} :
    view.markOf id = some mark ↔ ∃ element, element.id = id ∧ view.Marks listing element mark := by
  constructor
  · intro hmark
    obtain ⟨element, helement, rfl⟩ := h id mark hmark
    exact ⟨element, rfl, helement, hmark⟩
  · rintro ⟨element, rfl, _, hmark⟩
    exact hmark

/-- In a view without marks, a marking of facts leaves the marks that the kept ones are due. -/
theorem markOf_markPair_eq_some_iff (hlisting : listing.WellFormed) {kind : FactKind} {keep : Element → Bool}
    (hempty : view.marks = ∅) {id : ElementId} {mark : Mark} :
    (view.markPair listing (.fact kind) keep).markOf id = some mark ↔
      ∃ element ∈ listing.elements, element.id = id ∧ element.IsFact kind ∧ keep element = true ∧
        mark = element.factMark kind := by
  have hwithin : view.MarksWithin listing := marksWithin_of_marks_eq_empty hempty
  rw [(hwithin.markPair _ _).markOf_eq_some_iff]
  simp only [marks_markPair_iff hlisting hempty, Element.IsFact, Element.factMark]
  refine exists_congr fun element ↦ ?_
  by_cases hdefinition : (TagPair.fact kind).definition ∈ element.tags
  · simp only [hdefinition, if_true, not_true_eq_false, true_and, false_and, or_false, true_or]
    tauto
  · simp only [hdefinition, if_false, not_false_eq_true, true_and, false_and, false_or]
    tauto

theorem marksRelated_markPair (hlisting : listing.WellFormed) (kind : FactKind) (addresses : AddressSet)
    (hempty : view.marks = ∅) :
    (view.markPair listing (.fact kind) (isRelated addresses)).MarksRelated listing kind addresses := by
  intro id mark
  rw [markOf_markPair_eq_some_iff hlisting hempty]
  simp only [isRelated, AddressSet.intersects_iff, Element.IsFact, Element.IsRelatedFact, and_assoc]

theorem MarksRelated.congr {kind : FactKind} {addresses : AddressSet} {other : View}
    (h : view.MarksRelated listing kind addresses) (hmarks : other.marks = view.marks) :
    other.MarksRelated listing kind addresses := by
  unfold MarksRelated markOf
  rw [hmarks]
  exact h

theorem MarksRelated.isSome_markOf_iff {kind : FactKind} {addresses : AddressSet}
    (h : view.MarksRelated listing kind addresses) (id : ElementId) :
    (view.markOf id).isSome = true ↔
      ∃ element ∈ listing.elements, element.id = id ∧ element.IsRelatedFact kind addresses := by
  simp only [Option.isSome_iff_exists, h id]
  constructor
  · rintro ⟨mark, element, helement, hid, hrelated, _⟩
    exact ⟨element, helement, hid, hrelated⟩
  · rintro ⟨element, helement, hid, hrelated⟩
    exact ⟨element.factMark kind, element, helement, hid, hrelated, rfl⟩

end Marks

end View

/-! ## Related facts -/

section Related

variable {listing : Listing} {kind : FactKind} {addresses : AddressSet}

theorem mem_relatedFacts {element : Element} :
    element ∈ relatedFacts listing kind addresses ↔
      element ∈ listing.elements ∧ element.IsRelatedFact kind addresses := by
  rw [relatedFacts, List.mem_filter, List.mem_filter, element.roleIn_isSome_iff, isRelated,
    AddressSet.intersects_iff, and_assoc]
  rfl

theorem markOf_showAll_eq_some_iff (hlisting : listing.WellFormed) {id : ElementId} {mark : Mark} :
    (showAll listing kind).markOf id = some mark ↔
      ∃ element ∈ listing.elements, element.id = id ∧ element.IsFact kind ∧ mark = element.factMark kind := by
  have hempty : View.initial.marks = ∅ := rfl
  simp only [showAll, View.markOf_markPair_eq_some_iff hlisting hempty, true_and]

theorem marksRelated_showRelated (hlisting : listing.WellFormed) :
    (showRelated listing kind addresses).MarksRelated listing kind addresses :=
  View.marksRelated_markPair hlisting kind addresses rfl

theorem marksRelated_sliceToRelated (hlisting : listing.WellFormed) (view : View) :
    (sliceToRelated listing kind (some addresses) view).MarksRelated listing kind addresses :=
  (marksRelated_showRelated hlisting).congr (marks_sliceToRelated listing kind addresses view)

/-- A slice shows the rows of related facts. -/
theorem isVisible_sliceToRelated_iff {row : Row} (hrow : row ∈ listing.rows) (view : View) :
    (sliceToRelated listing kind (some addresses) view).isVisible row.index = true ↔
      ∃ element ∈ relatedFacts listing kind addresses, element.row = row.index := by
  rw [← Bool.not_eq_false, View.isVisible_eq_false_iff,
    Operation.mem_hidden_sliceToRelated (List.mem_map_of_mem hrow)]
  push Not
  rfl

/-- A slice shows the rows with a mark in them. -/
theorem isVisible_sliceToRelated_iff_marked (hlisting : listing.WellFormed) {row : Row}
    (hrow : row ∈ listing.rows) (view : View) :
    (sliceToRelated listing kind (some addresses) view).isVisible row.index = true ↔
      ∃ id ∈ row.elements,
        ((sliceToRelated listing kind (some addresses) view).markOf id).isSome = true := by
  simp only [isVisible_sliceToRelated_iff hrow, mem_relatedFacts,
    (marksRelated_sliceToRelated hlisting view).isSome_markOf_iff]
  constructor
  · rintro ⟨element, ⟨helement, hrelated⟩, hhome⟩
    exact ⟨element.id, (hlisting.id_mem_elements_iff helement hrow).2 hhome, element, helement, rfl, hrelated⟩
  · rintro ⟨id, hid, element, helement, rfl, hrelated⟩
    exact ⟨element, ⟨helement, hrelated⟩, (hlisting.id_mem_elements_iff helement hrow).1 hid⟩

theorem hidesWithin_sliceToRelated (view : View) :
    HidesWithin listing (sliceToRelated listing kind (some addresses) view) :=
  hidesWithin_showRows _ (View.hidden_markPair ..)

end Related

/-- A definition, linked to a use inside it and to an element that is both, and a use whose addresses are those
of the definition in another order. -/
def overlappingSource : String :=
  "\x7b\"rows\":[\x7b\"elements\":[" ++
    "\x7b\"id\":\"d\",\"class\":\"ENV-DEF ENV-USE DEF-tag\",\"address\":\"a,b\",\"children\":[" ++
      "\x7b\"id\":\"u\",\"class\":\"ENV-USE USE-tag\",\"address\":\"a,b\"\x7d]\x7d]\x7d," ++
  "\x7b\"elements\":[\x7b\"id\":\"p\",\"children\":[" ++
    "\x7b\"id\":\"e\",\"class\":\"USE-tag DEF-tag\",\"address\":\"a,b\"\x7d," ++
    "\x7b\"id\":\"v\",\"class\":\"ENV-USE USE-tag\",\"address\":\"b,a\"\x7d]\x7d]\x7d," ++
  "\x7b\"elements\":[\x7b\"id\":\"w\",\"class\":\"ENV-DEF\",\"address\":\"c\"\x7d]\x7d]\x7d"

def overlappingDefinition : Element :=
  ⟨"d", none, 0, "", ["a", "b"], [.fact .binding .definition, .fact .binding .use, .linked .definition]⟩

def overlappingUse : Element := ⟨"u", some "d", 0, "", ["a", "b"], [.fact .binding .use, .linked .use]⟩

def overlappingBoth : Element := ⟨"e", some "p", 1, "", ["a", "b"], [.linked .definition, .linked .use]⟩

def overlappingOther : Element := ⟨"v", some "p", 1, "", ["b", "a"], [.fact .binding .use, .linked .use]⟩

def overlappingListing : Listing :=
  .indexed [⟨0, none, "", ["d", "u"]⟩, ⟨1, none, "", ["p", "e", "v"]⟩, ⟨2, none, "", ["w"]⟩]
    [overlappingDefinition, overlappingUse, ⟨"p", none, 1, "", [], []⟩, overlappingBoth, overlappingOther,
     ⟨"w", none, 2, "", ["c"], [.fact .binding .definition]⟩]

theorem ofText_overlappingSource : Listing.ofText overlappingSource = .ok overlappingListing := by
  decide +kernel

/-- In every listing that is read, showing the facts related to some addresses marks just these and hides no
row. Slicing to them, from any view, marks the same, and of the rows hides just those without a mark. -/
theorem highlight_related_exact {source : String} {listing : Listing}
    (hread : Listing.ofText source = .ok listing) (kind : FactKind) (addresses : AddressSet) (view : View) :
    (showRelated listing kind addresses).MarksRelated listing kind addresses ∧
    (showRelated listing kind addresses).hidden = ∅ ∧
    (sliceToRelated listing kind (some addresses) view).MarksRelated listing kind addresses ∧
    (∀ row ∈ listing.rows,
      ((sliceToRelated listing kind (some addresses) view).isVisible row.index = true ↔
        ∃ id ∈ row.elements,
          ((sliceToRelated listing kind (some addresses) view).markOf id).isSome = true)) ∧
    HidesWithin listing (sliceToRelated listing kind (some addresses) view) := by
  have hlisting : listing.WellFormed := .ofText hread
  refine ⟨marksRelated_showRelated hlisting, hidden_showRelated listing kind addresses,
    marksRelated_sliceToRelated hlisting view, fun row hrow ↦ ?_, hidesWithin_sliceToRelated view⟩
  exact isVisible_sliceToRelated_iff_marked hlisting hrow view

/-- In the sample two rows hold a fact that carries the first address of the definition, one of them inside an
element that is not marked. -/
theorem highlight_related_exact_overlapping :
    Listing.ofText overlappingSource = .ok overlappingListing ∧
    (showRelated overlappingListing .binding (.ofList ["a", "x"])).markOf "d" = some .definition ∧
    ∀ view,
      (sliceToRelated overlappingListing .binding (some (.ofList ["a", "x"])) view).markOf "v" = some .use ∧
      (sliceToRelated overlappingListing .binding (some (.ofList ["a", "x"])) view).markOf "w" = none ∧
      (sliceToRelated overlappingListing .binding (some (.ofList ["a", "x"])) view).isVisible 1 = true ∧
      (sliceToRelated overlappingListing .binding (some (.ofList ["a", "x"])) view).isVisible 2 = false := by
  have hexact (view : View) :=
    highlight_related_exact ofText_overlappingSource .binding (.ofList ["a", "x"]) view
  refine ⟨ofText_overlappingSource, ?_, fun view ↦ ?_⟩
  · exact ((hexact .initial).1 "d" .definition).2 (by decide)
  · obtain ⟨_, _, hmarks, hvisible, _⟩ := hexact view
    have hv := (hmarks "v" .use).2 (by decide)
    have hw := mt (hmarks.isSome_markOf_iff "w").1 (by decide)
    have hshown := (hvisible ⟨1, none, "", ["p", "e", "v"]⟩ (by decide)).2
      ⟨"v", by decide, Option.isSome_of_eq_some hv⟩
    have hhidden := mt (hvisible ⟨2, none, "", ["w"]⟩ (by decide)).1 (by simpa using hw)
    exact ⟨hv, by simpa using hw, hshown, by simpa using hhidden⟩

/-! ## Linked elements -/

/-- What a link from a selection makes of a view. -/
structure HighlightsLinked (listing : Listing) (selected : Element) (view next : View) : Prop where
  hidden_eq : next.hidden = view.hidden
  marksWithin : next.MarksWithin listing
  markOf_selected : next.markOf selected.id = some .definition
  /-- Address lists are compared as a whole. -/
  markOf_unlinked : ∀ element ∈ listing.elements, element ≠ selected →
    element.addresses ≠ selected.addresses → next.markOf element.id = none
  /-- From a definition the uses are marked. -/
  markOf_of_definition : ∀ element ∈ listing.elements, element ≠ selected →
    element.addresses = selected.addresses → TagPair.linked.definition ∈ selected.tags →
    next.markOf element.id = if TagPair.linked.use ∈ element.tags then some .use else none
  /-- From a use all are marked by their roles. -/
  markOf_of_use : ∀ element ∈ listing.elements, element ≠ selected →
    element.addresses = selected.addresses → TagPair.linked.definition ∉ selected.tags →
    next.markOf element.id =
      if TagPair.linked.definition ∈ element.tags then some .definition
      else if TagPair.linked.use ∈ element.tags then some .use
      else none

theorem highlightsLinked_showLinked {listing : Listing} (hlisting : listing.WellFormed) {origin : ElementId}
    {selected : Element} (hselected : listing.nearest .linked origin = some selected) (view : View) :
    HighlightsLinked listing selected view (showLinked listing origin view) := by
  have hmem := Listing.mem_of_nearest_eq_some hselected
  have hmarks {element : Element} (helement : element ∈ listing.elements) (mark : Mark) :
      (showLinked listing origin view).markOf element.id = some mark ↔ _ :=
    (and_iff_right helement).symm.trans (marks_showLinked_iff hlisting hselected)
  have heffect := showLinked_effect listing hselected view
  refine ⟨by rw [heffect], ?_, (hmarks hmem _).2 (.inl ⟨rfl, rfl⟩), ?_, ?_, ?_⟩
  · exact (viewInvariant_showLinked hlisting origin).marksWithin.congr (by rw [heffect])
  · intro element helement hother haddresses
    refine Option.eq_none_iff_forall_ne_some.2 fun mark hmark ↦ ?_
    simp [hmarks helement, hother, haddresses] at hmark
  · intro element helement hother haddresses hdefinition
    refine Option.ext fun mark ↦ ?_
    simp [hmarks helement, hother, helement, haddresses, hdefinition, eq_comm (a := mark)]
  · intro element helement hother haddresses hdefinition
    refine Option.ext fun mark ↦ ?_
    rw [hmarks helement]
    by_cases hown : TagPair.linked.definition ∈ element.tags
    · simp [hother, helement, haddresses, hdefinition, hown, eq_comm (a := mark)]
    · simp [hother, helement, haddresses, hdefinition, hown, eq_comm (a := mark)]

/-- In every listing that is read, from every view and every origin, a link leaves the view as it is if no
linked element is at or around the origin, and otherwise marks what is linked to the nearest one. -/
theorem showLinked_exact {source : String} {listing : Listing} (hread : Listing.ofText source = .ok listing)
    (origin : ElementId) (view : View) :
    ((¬∃ selected, listing.IsNearest .linked origin selected) → showLinked listing origin view = view) ∧
    ∀ selected, listing.IsNearest .linked origin selected →
      HighlightsLinked listing selected view (showLinked listing origin view) := by
  have hlisting : listing.WellFormed := .ofText hread
  refine ⟨fun hnone ↦ ?_, fun selected hselected ↦ ?_⟩
  · have hnearest : listing.nearest .linked origin = none :=
      Option.eq_none_iff_forall_ne_some.2 fun selected hselected ↦
        hnone ⟨selected, (Listing.nearest_eq_some_iff hlisting).1 hselected⟩
    rw [showLinked, hnearest]
  · exact highlightsLinked_showLinked hlisting ((Listing.nearest_eq_some_iff hlisting).2 hselected) view

/-- In the sample a link from the use marks both definitions, of which one is a use too. A link from the first
definition marks uses only. What has the addresses in another order stays unmarked, and an element that is
linked to nothing changes nothing. -/
theorem showLinked_exact_overlapping :
    Listing.ofText overlappingSource = .ok overlappingListing ∧
    ∀ view,
      (showLinked overlappingListing "u" view).markOf "u" = some .definition ∧
      (showLinked overlappingListing "u" view).markOf "e" = some .definition ∧
      (showLinked overlappingListing "u" view).markOf "v" = none ∧
      (showLinked overlappingListing "d" view).markOf "e" = some .use ∧
      showLinked overlappingListing "p" view = view := by
  have hnearest {pair : TagPair} {origin : ElementId} {element : Element} :
      overlappingListing.nearest pair origin = some element ↔
        overlappingListing.IsNearest pair origin element :=
    Listing.nearest_eq_some_iff (.ofText ofText_overlappingSource)
  refine ⟨ofText_overlappingSource, fun view ↦ ?_⟩
  have huse := (showLinked_exact ofText_overlappingSource "u" view).2 overlappingUse (hnearest.1 (by decide))
  have hdefinition := (showLinked_exact ofText_overlappingSource "d" view).2 overlappingDefinition
    (hnearest.1 (by decide))
  have hplain := (showLinked_exact ofText_overlappingSource "p" view).1 fun ⟨_, hselected⟩ ↦ by
    have hnone : overlappingListing.nearest .linked "p" = none := by decide
    rw [← hnearest, hnone] at hselected
    contradiction
  exact ⟨huse.markOf_selected,
    huse.markOf_of_use overlappingBoth (by decide) (by decide) rfl (by decide),
    huse.markOf_unlinked overlappingOther (by decide) (by decide) (by decide),
    hdefinition.markOf_of_definition overlappingBoth (by decide) (by decide) rfl (by decide), hplain⟩

end DefUse
