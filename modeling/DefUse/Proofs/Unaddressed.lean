import DefUse.Proofs.RelatedFacts

/-!
# Elements without addresses

An element that has no address shares none: it is related to no selection and is the target of none. Links
do not ask for a shared address but compare address lists as a whole, and two empty lists are equal. The
main statement tells exactly which elements without addresses are marked beside the selection: a link from
a selection without addresses marks them, and nothing else does. The marks of a navigation and of a link
are given in full on the way.
-/

namespace DefUse

@[simp] theorem AddressSet.intersects_nil (set : AddressSet) : set.intersects [] = false := rfl

namespace View

variable {listing : Listing} {view : View} {element : Element} {mark : Mark}

/-- Which elements are marked is a matter of the marks alone. -/
theorem marks_iff_of_marks_eq {other : View} (h : view.marks = other.marks) :
    view.Marks listing element mark ↔ other.Marks listing element mark := by
  unfold Marks markOf
  rw [h]

/-- The targets are marked as such. The selection is marked as a use if it is no target. -/
theorem marks_markTargets_iff (hlisting : listing.WellFormed) {kind : NavKind} {selection : Selection}
    (hselection : selection.element ∈ listing.elements) :
    (view.markTargets listing kind selection).Marks listing element mark ↔
      element ∈ targets listing kind selection.addresses ∧ mark = .target ∨
      element ∉ targets listing kind selection.addresses ∧ element = selection.element ∧ mark = .use := by
  have htargets : ∀ target ∈ targets listing kind selection.addresses, target ∈ listing.elements := by
    intro target htarget
    exact (mem_targets.1 htarget).1
  have hempty : ¬view.clearMarks.Marks listing element mark := not_marks_of_marks_eq_empty rfl
  rw [markTargets, marks_markAll_iff hlisting htargets, marks_mark_iff hlisting hselection]
  simp only [hempty, and_false, or_false]

end View

section Marks

variable {listing : Listing} {view : View} {origin : ElementId} {element : Element} {mark : Mark}

/-- However it ends, a navigation from a selection makes the same marks. -/
theorem marks_goToDefinition {kind : NavKind} {selection : Selection}
    (hresolve : listing.resolve (.navigable kind) origin = some selection) (duration : UInt64) :
    (goToDefinition listing duration kind origin view).1.view.marks =
      (view.markTargets listing kind selection).marks := by
  rcases outcome_cases listing kind origin with hnone | ⟨other, hother, houtcome⟩
  · rw [hnone] at hresolve
    contradiction
  · obtain rfl : other = selection := Option.some.inj (hother.symm.trans hresolve)
    rcases houtcome with hfound | ⟨first, rest, hfound, hagree⟩ | hagree
    · rw [goToDefinition_noTarget duration view hresolve hfound, Transition.to]
    · rw [goToDefinition_unique duration view hresolve hfound hagree]
    · rw [goToDefinition_ambiguous duration view hresolve hagree, Transition.to, View.marks_showRows,
        View.marks_hideAllRows]

/-- The selection is marked as the definition. Any other element is marked only if it is linked to the
selection: as a use if the selection is a definition, and by its own role otherwise. -/
theorem marks_showLinked_iff (hlisting : listing.WellFormed) {selected : Element}
    (hselected : listing.nearest .linked origin = some selected) :
    (showLinked listing origin view).Marks listing element mark ↔
      element = selected ∧ mark = .definition ∨
      element ≠ selected ∧ element ∈ listing.elements ∧ element.addresses = selected.addresses ∧
        (TagPair.linked.definition ∈ selected.tags ∧ TagPair.linked.use ∈ element.tags ∧ mark = .use ∨
          TagPair.linked.definition ∉ selected.tags ∧
            (TagPair.linked.definition ∈ element.tags ∧ mark = .definition ∨
              TagPair.linked.definition ∉ element.tags ∧ TagPair.linked.use ∈ element.tags ∧
                mark = .use)) := by
  have hmem := Listing.mem_of_nearest_eq_some hselected
  rw [showLinked, hselected]
  simp only
  rw [View.marks_mark_iff hlisting hmem]
  refine or_congr_right (and_congr_right fun _ ↦ ?_)
  by_cases hdefinition : TagPair.linked.definition ∈ selected.tags
  · have hrole : selected.roleIn .linked = some .definition := if_pos hdefinition
    have hempty : ¬view.clearMarks.Marks listing element mark := View.not_marks_of_marks_eq_empty rfl
    simp only [hrole]
    rw [View.marks_markAll_iff hlisting Listing.mem_of_mem_filter_tagged, List.mem_filter,
      Listing.mem_tagged]
    simp only [hempty, and_false, or_false, decide_eq_true_eq, hdefinition, not_true_eq_false, true_and,
      false_and]
    tauto
  · have huse : TagPair.linked.use ∈ selected.tags :=
      (Listing.tags_of_nearest_eq_some hselected).resolve_left hdefinition
    have hrole : selected.roleIn .linked = some .use := by
      rw [Element.roleIn, if_neg hdefinition, if_pos huse]
    simp only [hrole]
    rw [View.marks_markPair_iff hlisting rfl]
    simp only [decide_eq_true_eq, hdefinition, not_false_eq_true, true_and, false_and, false_or]

end Marks

namespace Operation

section Commands

variable {listing : Listing} (hlisting : listing.WellFormed) {element : Element}
  (haddresses : element.addresses = [])

include hlisting haddresses

/-- An element without addresses is not among related facts. -/
theorem not_marks_showRelated {kind : FactKind} {set : AddressSet} {mark : Mark} :
    ¬(showRelated listing kind set).Marks listing element mark := by
  intro h
  have hrelated : isRelated set element = true := ((View.marks_markPair_iff hlisting rfl).1 h).2.1
  rw [isRelated, haddresses, AddressSet.intersects_nil] at hrelated
  contradiction

/-- A selection, sliced to or not, marks no element without addresses. -/
theorem not_marks_highlight {mode : Mode} (hmode : mode ≠ .all) {kind : FactKind} {origin : Option ElementId}
    {set : AddressSet} (hset : addresses listing kind origin = some set) (duration : UInt64) (view : View)
    {mark : Mark} :
    ¬(apply listing duration ⟨.highlight mode kind, origin⟩ view).view.Marks listing element mark := by
  have hnot : ¬(showRelated listing kind set).Marks listing element mark :=
    not_marks_showRelated hlisting haddresses
  cases mode with
  | all => exact absurd rfl hmode
  | selected =>
    simp only [apply, hset]
    exact hnot
  | slice =>
    simp only [apply, hset, Transition.to,
      View.marks_iff_of_marks_eq (marks_sliceToRelated listing kind _ view)]
    exact hnot

/-- An element without addresses is not among the targets of a navigation. -/
theorem not_marks_goToDefinition {kind : NavKind} {origin : ElementId} {selected : Element}
    (hselected : listing.nearest (.navigable kind) origin = some selected) (hother : element ≠ selected)
    (duration : UInt64) (view : View) {mark : Mark} :
    ¬(goToDefinition listing duration kind origin view).1.view.Marks listing element mark := by
  have hresolve : listing.resolve (.navigable kind) origin =
      some ⟨selected, .ofList selected.addresses⟩ := by
    rw [Listing.resolve, hselected, Option.map_some]
  have hmem := Listing.mem_of_nearest_eq_some hselected
  intro h
  rw [View.marks_iff_of_marks_eq (marks_goToDefinition hresolve duration),
    View.marks_markTargets_iff hlisting hmem] at h
  rcases h with ⟨htarget, _⟩ | ⟨_, hsame, _⟩
  · have hshared := (mem_targets.1 htarget).2.2
    rw [haddresses, AddressSet.intersects_nil] at hshared
    contradiction
  · exact hother hsame

/-- A link marks an element without addresses only if the selection has no addresses either. -/
theorem exists_marks_showLinked_iff {origin : ElementId} {selected : Element}
    (hselected : listing.nearest .linked origin = some selected) (helement : element ∈ listing.elements)
    (hother : element ≠ selected) (view : View) :
    (∃ mark, (showLinked listing origin view).Marks listing element mark) ↔
      selected.addresses = [] ∧ (TagPair.linked.use ∈ element.tags ∨
        TagPair.linked.definition ∉ selected.tags ∧ TagPair.linked.definition ∈ element.tags) := by
  simp only [marks_showLinked_iff hlisting hselected, hother, helement, haddresses, false_and, false_or,
    ne_eq, not_false_eq_true, true_and, exists_and_left]
  rw [eq_comm (a := ([] : List Address))]
  refine and_congr_right fun _ ↦ ?_
  by_cases hdefinition : TagPair.linked.definition ∈ selected.tags
  · simp [hdefinition]
  · by_cases hown : TagPair.linked.definition ∈ element.tags <;> simp [hdefinition, hown]

end Commands

/-! ## A sample -/

/-- A definition and a use, linked by having no addresses. -/
def unaddressedSource : String :=
  "\x7b\"rows\":[\x7b\"elements\":[\x7b\"id\":\"d\",\"class\":\"DEF-tag ENV-DEF\"\x7d," ++
    "\x7b\"id\":\"u\",\"class\":\"USE-tag ENV-USE\"\x7d]\x7d]\x7d"

def unaddressedDefinition : Element :=
  ⟨"d", none, 0, "", [], [.fact .binding .definition, .linked .definition]⟩

def unaddressedUse : Element := ⟨"u", none, 0, "", [], [.fact .binding .use, .linked .use]⟩

def unaddressedListing : Listing :=
  .indexed [⟨0, none, "", ["d", "u"]⟩] [unaddressedDefinition, unaddressedUse]

theorem ofText_unaddressedSource : Listing.ofText unaddressedSource = .ok unaddressedListing := by
  decide +kernel

theorem standsFor_unaddressedDefinition (pair : TagPair)
    (htag : pair.definition ∈ unaddressedDefinition.tags) :
    unaddressedListing.StandsFor pair (some "d") unaddressedDefinition :=
  ⟨"d", rfl, .here List.mem_cons_self (.inl htag)⟩

/-! ## What is marked beside the selection -/

/-- Beside the selection, a command that acts on one marks an element without addresses exactly if it is a
link, the selection has no addresses either, and the element bears the tag of uses or, unless the selection
is a definition, that of definitions. -/
theorem unaddressed_marked_iff {source : String} {listing : Listing}
    (hread : Listing.ofText source = .ok listing) {command : Command} (hneeds : command.needsOrigin = true)
    {pair : TagPair} (hpair : command.pair = some pair) {origin : Option ElementId} {selected : Element}
    (hselected : listing.StandsFor pair origin selected) (duration : UInt64) (view : View)
    {element : Element} (helement : element ∈ listing.elements) (hother : element ≠ selected)
    (haddresses : element.addresses = []) :
    (∃ mark, (apply listing duration ⟨command, origin⟩ view).view.Marks listing element mark) ↔
      command = .link ∧ selected.addresses = [] ∧ (TagPair.linked.use ∈ element.tags ∨
        TagPair.linked.definition ∉ selected.tags ∧ TagPair.linked.definition ∈ element.tags) := by
  have hlisting : listing.WellFormed := .ofText hread
  obtain ⟨id, rfl, hid⟩ := Option.bind_eq_some_iff.1
    ((Listing.bind_nearest_eq_some_iff hlisting).2 hselected)
  cases command with
  | erase => contradiction
  | unslice => contradiction
  | highlight mode kind =>
    obtain rfl : TagPair.fact kind = pair := Option.some.inj hpair
    have hset : addresses listing kind (some id) = some (.ofList selected.addresses) := by
      rw [addresses_eq_map, Option.bind_some, hid, Option.map_some]
    have hmode : mode ≠ .all := by
      rintro rfl
      contradiction
    simp [not_marks_highlight hlisting haddresses hmode hset duration view]
  | goTo kind =>
    obtain rfl : TagPair.navigable kind = pair := Option.some.inj hpair
    simp [apply, not_marks_goToDefinition hlisting haddresses hid hother duration view]
  | link =>
    obtain rfl : TagPair.linked = pair := Option.some.inj hpair
    simp only [apply, Transition.to, exists_marks_showLinked_iff hlisting haddresses hid helement hother view,
      true_and]

/-- In the sample the use is marked by a link from the definition, and not by showing the facts related to
it. -/
theorem unaddressed_marked_iff_sample :
    Listing.ofText unaddressedSource = .ok unaddressedListing ∧
    unaddressedListing.StandsFor .linked (some "d") unaddressedDefinition ∧
    unaddressedListing.StandsFor (.fact .binding) (some "d") unaddressedDefinition ∧
    unaddressedUse ∈ unaddressedListing.elements ∧ unaddressedUse ≠ unaddressedDefinition ∧
    unaddressedUse.addresses = [] ∧
    (∀ duration view, ∃ mark, (apply unaddressedListing duration ⟨.link, some "d"⟩ view).view.Marks
      unaddressedListing unaddressedUse mark) ∧
    ∀ duration view, ¬∃ mark, (apply unaddressedListing duration
      ⟨.highlight .selected .binding, some "d"⟩ view).view.Marks unaddressedListing unaddressedUse mark := by
  have hlinked := standsFor_unaddressedDefinition .linked (by decide)
  have hfact := standsFor_unaddressedDefinition (.fact .binding) (by decide)
  have hmem : unaddressedUse ∈ unaddressedListing.elements := by decide
  have hother : unaddressedUse ≠ unaddressedDefinition := by decide
  refine ⟨ofText_unaddressedSource, hlinked, hfact, hmem, hother, rfl, fun duration view ↦ ?_,
    fun duration view ↦ ?_⟩
  · exact (unaddressed_marked_iff ofText_unaddressedSource rfl rfl hlinked duration view hmem hother rfl).2
      ⟨rfl, rfl, .inl (by decide)⟩
  · rw [unaddressed_marked_iff ofText_unaddressedSource rfl rfl hfact duration view hmem hother rfl]
    simp

/-- Not every element without addresses stays unmarked beside the selection. -/
theorem unaddressed_marked_by_link :
    ¬∀ (source : String) (listing : Listing), Listing.ofText source = .ok listing →
      ∀ (command : Command) (pair : TagPair), command.needsOrigin = true → command.pair = some pair →
        ∀ (origin : Option ElementId) (selected : Element), listing.StandsFor pair origin selected →
          ∀ (duration : UInt64) (view : View), ∀ element ∈ listing.elements, element ≠ selected →
            element.addresses = [] →
            (apply listing duration ⟨command, origin⟩ view).view.markOf element.id = none := by
  intro hall
  have hunmarked := hall _ _ ofText_unaddressedSource .link .linked rfl rfl (some "d") _
    (standsFor_unaddressedDefinition .linked (by decide)) 200 .initial unaddressedUse (by decide) (by decide)
    rfl
  have hmarked : (apply unaddressedListing 200 ⟨.link, some "d"⟩ .initial).view.markOf unaddressedUse.id =
      some .use := by
    decide +kernel
  rw [hmarked] at hunmarked
  contradiction

end Operation

end DefUse
