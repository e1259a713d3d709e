import DefUse.Proofs.Reachable
import DefUse.Proofs.Scrolling
import DefUse.Proofs.Unaddressed

/-!
# Going to a definition, exactly

From an origin the nearest navigable element is selected, and the navigable definitions that share an address
with it are found in the order of the listing. The main statement says all that a navigation comes to in terms
of these two: how it ends, which elements it marks and how, where it scrolls to, and which rows it shows.
-/

namespace DefUse

/-- The two elements have an address in common. -/
def Element.SharesAddress (element other : Element) : Prop :=
  ∃ address ∈ element.addresses, address ∈ other.addresses

instance (element other : Element) : Decidable (element.SharesAddress other) :=
  inferInstanceAs (Decidable (∃ address ∈ element.addresses, address ∈ other.addresses))

namespace Listing

/-- The navigable definitions that share an address with an element, in the order of the listing. -/
def definitionsOf (listing : Listing) (kind : NavKind) (element : Element) : List Element :=
  listing.elements.filter fun definition ↦
    (TagPair.navigable kind).definition ∈ definition.tags ∧ element.SharesAddress definition

/-- An element is selected from the origin, and these are its definitions. -/
def Finds (listing : Listing) (kind : NavKind) (origin : ElementId) (selected : Element)
    (found : List Element) : Prop :=
  listing.IsNearest (.navigable kind) origin selected ∧ listing.definitionsOf kind selected = found

end Listing

/-- What a navigation comes to, told by the element that is selected and by its definitions. -/
structure GoesToDefinition (listing : Listing) (duration : UInt64) (kind : NavKind) (origin : ElementId)
    (view : View) (transition : Transition) (navigation : Navigation) : Prop where
  unresolved_iff : navigation = .unresolved ↔
    ¬∃ selected, listing.IsNearest (.navigable kind) origin selected
  noTarget_iff : navigation = .noTarget ↔ ∃ selected, listing.Finds kind origin selected []
  ambiguous_iff : navigation = .ambiguous ↔
    ∃ selected found, listing.Finds kind origin selected found ∧
      ∃ first ∈ found, ∃ second ∈ found, first.addresses ≠ second.addresses
  unique_iff : navigation = .unique ↔
    ∃ selected found, listing.Finds kind origin selected found ∧ found ≠ [] ∧
      ∀ first ∈ found, ∀ second ∈ found, first.addresses = second.addresses
  /-- The definitions are marked as targets, and the selected element as a use if it is none of them. -/
  markOf_eq_some_iff : ∀ id mark, transition.view.markOf id = some mark ↔
    ∃ selected found, listing.Finds kind origin selected found ∧
      ((∃ target ∈ found, target.id = id) ∧ mark = .target ∨
        selected ∉ found ∧ selected.id = id ∧ mark = .use)
  scrolls_iff : transition.scroll.isSome = true ↔ navigation = .unique
  scroll_eq : ∀ scroll, transition.scroll = some scroll →
    ∃ selected first rest, listing.Finds kind origin selected (first :: rest) ∧
      scroll = ⟨duration, first.id, first.row⟩
  hidden_eq : navigation ≠ .ambiguous → transition.view.hidden = view.hidden
  hidesWithin : navigation = .ambiguous → HidesWithin listing transition.view
  isVisible_iff : navigation = .ambiguous → ∀ row ∈ listing.rows,
    (transition.view.isVisible row.index = true ↔
      ∃ selected found, listing.Finds kind origin selected found ∧
        (selected.row = row.index ∨ ∃ target ∈ found, target.row = row.index))
  isVisible_iff_marked : navigation = .ambiguous → ∀ row ∈ listing.rows,
    (transition.view.isVisible row.index = true ↔
      ∃ id ∈ row.elements, (transition.view.markOf id).isSome = true)

section Finds

variable {listing : Listing} {kind : NavKind} {origin : ElementId}

/-- The set of the addresses of an element leads to its definitions. -/
theorem targets_ofList (listing : Listing) (kind : NavKind) (element : Element) :
    targets listing kind (.ofList element.addresses) = listing.definitionsOf kind element := by
  unfold targets Listing.definitionsOf Listing.tagged
  rw [List.filter_filter]
  refine List.filter_congr fun definition _ ↦ ?_
  have hshares : (AddressSet.ofList element.addresses).intersects definition.addresses = true ↔
      element.SharesAddress definition := by
    rw [AddressSet.intersects_iff]
    simp only [AddressSet.ofList, mem_firstOccurrences, Element.SharesAddress, and_comm]
  rw [Bool.eq_iff_iff, Bool.and_eq_true, hshares, decide_eq_true_eq, decide_eq_true_eq, and_comm]

theorem finds_iff_of_resolve (hlisting : listing.WellFormed) {selection : Selection}
    (hresolve : listing.resolve (.navigable kind) origin = some selection) {selected : Element}
    {found : List Element} :
    listing.Finds kind origin selected found ↔
      selected = selection.element ∧ found = targets listing kind selection.addresses := by
  obtain ⟨element, hnearest, rfl⟩ := Option.map_eq_some_iff.1 hresolve
  unfold Listing.Finds
  rw [← Listing.nearest_eq_some_iff hlisting, hnearest, targets_ofList]
  constructor
  · rintro ⟨hsome, rfl⟩
    obtain rfl := Option.some.inj hsome
    exact ⟨rfl, rfl⟩
  · rintro ⟨rfl, rfl⟩
    exact ⟨rfl, rfl⟩

/-- What holds of some element that is selected holds of the selection. -/
theorem exists_finds_iff (hlisting : listing.WellFormed) {selection : Selection}
    (hresolve : listing.resolve (.navigable kind) origin = some selection)
    (holds : Element → List Element → Prop) :
    (∃ selected found, listing.Finds kind origin selected found ∧ holds selected found) ↔
      holds selection.element (targets listing kind selection.addresses) := by
  simp only [finds_iff_of_resolve hlisting hresolve, and_assoc, exists_and_left, exists_eq_left]

theorem not_isNearest_of_resolve (hlisting : listing.WellFormed) {pair : TagPair}
    (hresolve : listing.resolve pair origin = none) :
    ¬∃ selected, listing.IsNearest pair origin selected := by
  rintro ⟨selected, hselected⟩
  rw [← Listing.nearest_eq_some_iff hlisting] at hselected
  simp [Listing.resolve, hselected] at hresolve

end Finds

/-! ## The parts of a navigation -/

/-- In a well-formed listing an element lies in the row that lists its id. -/
theorem Listing.WellFormed.id_mem_elements_iff {listing : Listing} (hlisting : listing.WellFormed)
    {element : Element} (helement : element ∈ listing.elements) {row : Row} (hrow : row ∈ listing.rows) :
    element.id ∈ row.elements ↔ element.row = row.index := by
  obtain ⟨home, hhome, hindex, hlists⟩ := hlisting.element_row element helement
  rw [hlists row hrow, ← hindex]
  constructor
  · rintro rfl
    rfl
  · intro hsame
    obtain ⟨place, hplace⟩ := List.mem_iff_getElem?.1 hrow
    obtain ⟨other, hother⟩ := List.mem_iff_getElem?.1 hhome
    rw [hlisting.row_index _ _ hplace, hlisting.row_index _ _ hother] at hsame
    rw [hsame, hplace] at hother
    exact Option.some.inj hother

theorem View.markOf_markTargets (listing : Listing) (kind : NavKind) (selection : Selection) (view : View)
    (id : ElementId) :
    (view.markTargets listing kind selection).markOf id =
      if id ∈ (targets listing kind selection.addresses).map Element.id then some .target
      else if selection.element.id = id then some .use
      else none := by
  have hempty : view.clearMarks.markOf id = none := Std.ExtTreeMap.getElem?_empty
  rw [View.markTargets, View.markOf_markAll, View.markOf_mark, hempty]

section Parts

variable {listing : Listing} {kind : NavKind} {origin : ElementId} {selection : Selection}
  (hresolve : listing.resolve (.navigable kind) origin = some selection) (duration : UInt64) (view : View)

include hresolve

/-- Without targets there are none to disagree, and no first one to scroll to. -/
theorem goToDefinition_eq_ite :
    goToDefinition listing duration kind origin view =
      if agree (targets listing kind selection.addresses) then
        (⟨view.markTargets listing kind selection,
            (targets listing kind selection.addresses).head?.map fun first ↦ ⟨duration, first.id, first.row⟩⟩,
          if targets listing kind selection.addresses = [] then .noTarget else .unique)
      else
        (.to (((view.markTargets listing kind selection).hideAllRows listing).showRows
          (selection.element.row :: (targets listing kind selection.addresses).map Element.row)),
          .ambiguous) := by
  cases hagree : agree (targets listing kind selection.addresses) with
  | false => exact goToDefinition_ambiguous duration view hresolve hagree
  | true =>
    cases hfound : targets listing kind selection.addresses with
    | nil => exact goToDefinition_noTarget duration view hresolve hfound
    | cons first rest =>
      rw [hfound] at hagree
      exact goToDefinition_unique duration view hresolve hfound hagree

theorem goToDefinition_ne_unresolved :
    (goToDefinition listing duration kind origin view).2 ≠ .unresolved := by
  rw [goToDefinition_eq_ite hresolve]
  split
  · dsimp only
    split <;> simp
  · simp

theorem goToDefinition_eq_noTarget_iff :
    (goToDefinition listing duration kind origin view).2 = .noTarget ↔
      targets listing kind selection.addresses = [] := by
  rw [goToDefinition_eq_ite hresolve]
  by_cases hagree : agree (targets listing kind selection.addresses) = true
  · simp [hagree]
  · have hne : targets listing kind selection.addresses ≠ [] := by
      intro hnil
      rw [hnil] at hagree
      exact hagree rfl
    simp [hagree, hne]

theorem goToDefinition_eq_unique_iff :
    (goToDefinition listing duration kind origin view).2 = .unique ↔
      targets listing kind selection.addresses ≠ [] ∧
        ∀ first ∈ targets listing kind selection.addresses,
          ∀ second ∈ targets listing kind selection.addresses, first.addresses = second.addresses := by
  rw [goToDefinition_eq_ite hresolve, ← agree_eq_true_iff]
  by_cases hagree : agree (targets listing kind selection.addresses) = true <;> simp [hagree]

theorem isSome_scroll_goToDefinition_iff :
    (goToDefinition listing duration kind origin view).1.scroll.isSome = true ↔
      (goToDefinition listing duration kind origin view).2 = .unique := by
  rw [goToDefinition_eq_ite hresolve]
  by_cases hagree : agree (targets listing kind selection.addresses) = true
  · simp [hagree]
  · simp [hagree, Transition.to]

theorem exists_head_of_scroll {scroll : Scroll}
    (hscroll : (goToDefinition listing duration kind origin view).1.scroll = some scroll) :
    ∃ first rest, targets listing kind selection.addresses = first :: rest ∧
      scroll = ⟨duration, first.id, first.row⟩ := by
  rw [goToDefinition_eq_ite hresolve] at hscroll
  split at hscroll
  · obtain ⟨first, hfirst, rfl⟩ := Option.map_eq_some_iff.1 hscroll
    obtain ⟨rest, hrest⟩ := List.head?_eq_some_iff.1 hfirst
    exact ⟨first, rest, hrest, rfl⟩
  · simp [Transition.to] at hscroll

theorem hidden_goToDefinition_of_ne
    (hnavigation : (goToDefinition listing duration kind origin view).2 ≠ .ambiguous) :
    (goToDefinition listing duration kind origin view).1.view.hidden = view.hidden := by
  rw [goToDefinition_eq_ite hresolve] at hnavigation ⊢
  split
  · exact hidden_markTargets listing kind selection view
  · rename_i hagree
    simp [hagree] at hnavigation

theorem agree_eq_false_of_ambiguous
    (hnavigation : (goToDefinition listing duration kind origin view).2 = .ambiguous) :
    agree (targets listing kind selection.addresses) = false := by
  rw [agree_eq_false_iff]
  exact (goToDefinition_eq_ambiguous_iff hresolve duration view).1 hnavigation

theorem hidesWithin_goToDefinition
    (hnavigation : (goToDefinition listing duration kind origin view).2 = .ambiguous) :
    HidesWithin listing (goToDefinition listing duration kind origin view).1.view := by
  have hagree := agree_eq_false_of_ambiguous hresolve duration view hnavigation
  rw [goToDefinition_ambiguous duration view hresolve hagree]
  exact hidesWithin_showRows _ (View.hidden_hideAllRows ..)

/-- An ambiguous navigation shows the rows of the selection and of its targets. -/
theorem isVisible_goToDefinition_iff
    (hnavigation : (goToDefinition listing duration kind origin view).2 = .ambiguous) {row : Row}
    (hrow : row ∈ listing.rows) :
    (goToDefinition listing duration kind origin view).1.view.isVisible row.index = true ↔
      selection.element.row = row.index ∨
        ∃ target ∈ targets listing kind selection.addresses, target.row = row.index := by
  have hagree := agree_eq_false_of_ambiguous hresolve duration view hnavigation
  rw [← Bool.not_eq_false, View.isVisible_eq_false_iff,
    Operation.mem_hidden_goToDefinition (List.mem_map_of_mem hrow) hresolve hagree, not_and_or, not_not]
  push Not
  rfl

theorem markOf_goToDefinition (id : ElementId) :
    (goToDefinition listing duration kind origin view).1.view.markOf id =
      (view.markTargets listing kind selection).markOf id := by
  unfold View.markOf
  rw [marks_goToDefinition hresolve]

theorem isSome_markOf_goToDefinition_iff (id : ElementId) :
    ((goToDefinition listing duration kind origin view).1.view.markOf id).isSome = true ↔
      selection.element.id = id ∨
        ∃ target ∈ targets listing kind selection.addresses, target.id = id := by
  rw [markOf_goToDefinition hresolve, View.markOf_markTargets, ← List.mem_map]
  split
  · simp [*]
  · split <;> simp [*]

/-- A target that is also the selection is marked as a target. -/
theorem markOf_goToDefinition_eq_some_iff (hlisting : listing.WellFormed) (id : ElementId) (mark : Mark) :
    (goToDefinition listing duration kind origin view).1.view.markOf id = some mark ↔
      (∃ target ∈ targets listing kind selection.addresses, target.id = id) ∧ mark = .target ∨
      selection.element ∉ targets listing kind selection.addresses ∧ selection.element.id = id ∧
        mark = .use := by
  have hselected : selection.element ∈ listing.elements :=
    Listing.mem_of_nearest_eq_some (Listing.nearest_of_resolve_eq_some hresolve)
  have htargets : ∀ target ∈ targets listing kind selection.addresses, target ∈ listing.elements :=
    fun target htarget ↦ (mem_targets.1 htarget).1
  have hself : selection.element ∈ targets listing kind selection.addresses ↔
      selection.element.id ∈ (targets listing kind selection.addresses).map Element.id :=
    ⟨List.mem_map_of_mem, hlisting.mem_of_id_mem htargets hselected⟩
  rw [markOf_goToDefinition hresolve, View.markOf_markTargets, ← List.mem_map, hself]
  by_cases hid : selection.element.id = id
  · rw [hid]
    split <;> simp_all [eq_comm (a := mark)]
  · split <;> simp_all [eq_comm (a := mark)]

/-- An ambiguous navigation shows the rows with a mark in them. -/
theorem isVisible_goToDefinition_iff_marked (hlisting : listing.WellFormed)
    (hnavigation : (goToDefinition listing duration kind origin view).2 = .ambiguous) {row : Row}
    (hrow : row ∈ listing.rows) :
    (goToDefinition listing duration kind origin view).1.view.isVisible row.index = true ↔
      ∃ id ∈ row.elements,
        ((goToDefinition listing duration kind origin view).1.view.markOf id).isSome = true := by
  have hselected : selection.element ∈ listing.elements :=
    Listing.mem_of_nearest_eq_some (Listing.nearest_of_resolve_eq_some hresolve)
  simp only [isVisible_goToDefinition_iff hresolve duration view hnavigation hrow,
    isSome_markOf_goToDefinition_iff hresolve]
  constructor
  · rintro (hhome | ⟨target, htarget, hhome⟩)
    · exact ⟨selection.element.id, (hlisting.id_mem_elements_iff hselected hrow).2 hhome, .inl rfl⟩
    · exact ⟨target.id, (hlisting.id_mem_elements_iff (mem_targets.1 htarget).1 hrow).2 hhome,
        .inr ⟨target, htarget, rfl⟩⟩
  · rintro ⟨id, hid, rfl | ⟨target, htarget, rfl⟩⟩
    · exact .inl ((hlisting.id_mem_elements_iff hselected hrow).1 hid)
    · exact .inr ⟨target, htarget, (hlisting.id_mem_elements_iff (mem_targets.1 htarget).1 hrow).1 hid⟩

end Parts

/-! ## The whole of a navigation -/

section Whole

variable {listing : Listing} {kind : NavKind} {origin : ElementId} (hlisting : listing.WellFormed)
  (duration : UInt64) (view : View)

include hlisting

/-- Nothing is found from an origin that no element stands for. -/
theorem goesToDefinition_of_unresolved (hresolve : listing.resolve (.navigable kind) origin = none) :
    GoesToDefinition listing duration kind origin view (.to view.clearMarks) .unresolved := by
  have hnone := not_isNearest_of_resolve hlisting hresolve
  have hfinds (selected : Element) (found : List Element) : ¬listing.Finds kind origin selected found :=
    fun h ↦ hnone ⟨selected, h.1⟩
  have hempty (id : ElementId) : view.clearMarks.markOf id = none := Std.ExtTreeMap.getElem?_empty
  constructor <;> simp [hnone, hfinds, hempty, Transition.to]

theorem goesToDefinition_of_resolve {selection : Selection}
    (hresolve : listing.resolve (.navigable kind) origin = some selection) :
    GoesToDefinition listing duration kind origin view (goToDefinition listing duration kind origin view).1
      (goToDefinition listing duration kind origin view).2 where
  unresolved_iff := by
    have hselected : ∃ selected, listing.IsNearest (.navigable kind) origin selected :=
      ⟨selection.element, (Listing.nearest_eq_some_iff hlisting).1
        (Listing.nearest_of_resolve_eq_some hresolve)⟩
    simp [hselected, goToDefinition_ne_unresolved hresolve]
  noTarget_iff := by
    rw [goToDefinition_eq_noTarget_iff hresolve]
    simp [finds_iff_of_resolve hlisting hresolve, eq_comm]
  ambiguous_iff := by
    rw [exists_finds_iff hlisting hresolve]
    exact goToDefinition_eq_ambiguous_iff hresolve duration view
  unique_iff := by
    rw [exists_finds_iff hlisting hresolve]
    exact goToDefinition_eq_unique_iff hresolve duration view
  markOf_eq_some_iff id mark := by
    rw [exists_finds_iff hlisting hresolve]
    exact markOf_goToDefinition_eq_some_iff hresolve duration view hlisting id mark
  scrolls_iff := isSome_scroll_goToDefinition_iff hresolve duration view
  scroll_eq scroll hscroll := by
    obtain ⟨first, rest, hfound, heq⟩ := exists_head_of_scroll hresolve duration view hscroll
    exact ⟨selection.element, first, rest, (finds_iff_of_resolve hlisting hresolve).2 ⟨rfl, hfound.symm⟩, heq⟩
  hidden_eq := hidden_goToDefinition_of_ne hresolve duration view
  hidesWithin := hidesWithin_goToDefinition hresolve duration view
  isVisible_iff hnavigation row hrow := by
    rw [exists_finds_iff hlisting hresolve]
    exact isVisible_goToDefinition_iff hresolve duration view hnavigation hrow
  isVisible_iff_marked hnavigation row hrow :=
    isVisible_goToDefinition_iff_marked hresolve duration view hlisting hnavigation hrow

end Whole

/-- In the sample the use is selected from the element inside it, and it has two definitions. -/
theorem finds_sampleListing : Listing.sampleListing.Finds .binding "g"
      ⟨"u", none, 1, "", ["a"], [.fact .binding .use, .linked .use, .navigable .binding .use]⟩
      [⟨"d", none, 0, "", ["a"],
        [.fact .binding .definition, .linked .definition, .navigable .binding .definition]⟩,
       ⟨"w", none, 2, "", ["a", "b"], [.navigable .binding .definition]⟩] :=
  ⟨(Listing.nearest_eq_some_iff (.ofText Listing.ofText_sampleSource)).1 (by decide), by decide⟩

/-- In every listing that is read, from every view and every origin, whether the listing has it or not, going
to a definition comes to what the selected element and its definitions tell. -/
theorem goToDefinition_exact {source : String} {listing : Listing}
    (hread : Listing.ofText source = .ok listing) (duration : UInt64) (kind : NavKind) (origin : ElementId)
    (view : View) :
    GoesToDefinition listing duration kind origin view (goToDefinition listing duration kind origin view).1
      (goToDefinition listing duration kind origin view).2 := by
  have hlisting : listing.WellFormed := .ofText hread
  cases hresolve : listing.resolve (.navigable kind) origin with
  | none =>
    rw [goToDefinition_unresolved duration view hresolve]
    exact goesToDefinition_of_unresolved hlisting duration view hresolve
  | some selection => exact goesToDefinition_of_resolve hlisting duration view hresolve

/-- The definitions of the use in the sample have different address lists, so both are targets, and the use is
marked as such. -/
theorem goToDefinition_exact_sample :
    Listing.ofText Listing.sampleSource = .ok Listing.sampleListing ∧
    ∀ duration view,
      (goToDefinition Listing.sampleListing duration .binding "g" view).2 = .ambiguous ∧
      (goToDefinition Listing.sampleListing duration .binding "g" view).1.view.markOf "w" = some .target ∧
      (goToDefinition Listing.sampleListing duration .binding "g" view).1.view.markOf "u" = some .use ∧
      GoesToDefinition Listing.sampleListing duration .binding "g" view
        (goToDefinition Listing.sampleListing duration .binding "g" view).1 .ambiguous := by
  refine ⟨Listing.ofText_sampleSource, fun duration view ↦ ?_⟩
  have hexact := goToDefinition_exact Listing.ofText_sampleSource duration .binding "g" view
  have hambiguous := hexact.ambiguous_iff.2 ⟨_, _, finds_sampleListing, by decide⟩
  have htarget := (hexact.markOf_eq_some_iff "w" .target).2 ⟨_, _, finds_sampleListing, by decide⟩
  have huse := (hexact.markOf_eq_some_iff "u" .use).2 ⟨_, _, finds_sampleListing, by decide⟩
  rw [hambiguous] at hexact
  exact ⟨hambiguous, htarget, huse, hexact⟩

end DefUse
