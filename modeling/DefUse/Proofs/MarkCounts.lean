import DefUse.Proofs.ExactHighlighting
import DefUse.Proofs.ReportContent
import DefUse.Proofs.Vocabulary

/-!
# Counting marks

A view keeps marks by id, a report lists the marked elements as they are written, and statistics count the
elements that carry a tag. As ids are distinct, a view and its report hold the same marks. The main statement
compares the three for all facts of a kind: as many are marked as definitions as carry the tag of definitions,
as many are marked as uses as carry the tag of uses alone, and the report lists these elements.
-/

namespace DefUse

/-! ## Marks in a view and in its report -/

/-- How many ids have the mark. -/
def View.markCount (view : View) (mark : Mark) : Nat := (view.marked.filter (·.2 == mark)).length

/-- How many of the listed elements have the mark. -/
def Report.markCount (report : Report) (mark : Mark) : Nat := (report.marks.filter (·.mark == mark)).length

theorem View.nodup_marked (view : View) : view.marked.Nodup := by
  refine Std.ExtTreeMap.distinct_keys_toList.imp fun hkeys heq ↦ hkeys ?_
  rw [heq]
  exact Std.ReflCmp.compare_self

namespace Report

section Marks

variable (listing : Listing) (transition : Transition)

/-- A report lists elements in the order in which they are written. -/
theorem sublist_marks_ofTransition :
    ((ofTransition listing transition).marks.map MarkedElement.element).Sublist
      (listing.elements.map Element.id) := by
  have hids : (ofTransition listing transition).marks.map MarkedElement.element =
      (listing.elements.filter fun element ↦ (transition.view.markOf element.id).isSome).map Element.id := by
    rw [ofTransition, List.map_filterMap, ← List.filterMap_eq_map, List.filterMap_filter]
    refine List.filterMap_congr fun element _ ↦ ?_
    cases transition.view.markOf element.id <;> rfl
  rw [hids]
  exact List.filter_sublist.map Element.id

variable {listing}

/-- The marks of a report are those of the view, each once. -/
theorem marked_perm_marks (hlisting : listing.WellFormed) (hwithin : transition.view.MarksWithin listing) :
    transition.view.marked.Perm
      ((ofTransition listing transition).marks.map fun marked ↦ (marked.element, marked.mark)) := by
  have hnodup : ((ofTransition listing transition).marks.map fun marked ↦
      (marked.element, marked.mark)).Nodup := by
    have hids := hlisting.ids_nodup.sublist (sublist_marks_ofTransition listing transition)
    refine List.Nodup.of_map Prod.fst ?_
    rwa [List.map_map]
  rw [List.perm_ext_iff_of_nodup transition.view.nodup_marked hnodup]
  rintro ⟨id, mark⟩
  calc (id, mark) ∈ transition.view.marked
      ↔ transition.view.markOf id = some mark := Std.ExtTreeMap.mem_toList_iff_getElem?_eq_some
    _ ↔ ∃ marked ∈ (ofTransition listing transition).marks, marked.element = id ∧ marked.mark = mark :=
        markOf_eq_some_iff_marks hwithin id mark
    _ ↔ (id, mark) ∈ (ofTransition listing transition).marks.map fun marked ↦
          (marked.element, marked.mark) := by simp only [List.mem_map, Prod.mk.injEq]

theorem markCount_ofTransition (hlisting : listing.WellFormed)
    (hwithin : transition.view.MarksWithin listing) (mark : Mark) :
    (ofTransition listing transition).markCount mark = transition.view.markCount mark := by
  have hperm := (marked_perm_marks transition hlisting hwithin).filter (·.2 == mark)
  rw [View.markCount, hperm.length_eq, List.filter_map, List.length_map]
  rfl

theorem markCount_eq_countP (mark : Mark) :
    (ofTransition listing transition).markCount mark =
      listing.elements.countP fun element ↦ transition.view.markOf element.id = some mark := by
  rw [markCount, ← List.countP_eq_length_filter, ofTransition, List.countP_filterMap]
  refine List.countP_congr fun element _ ↦ ?_
  cases transition.view.markOf element.id <;> simp

end Marks

end Report

/-- The marks of one sort, counted along the listing. -/
theorem View.MarksWithin.markCount_eq_countP {listing : Listing} {view : View} (h : view.MarksWithin listing)
    (hlisting : listing.WellFormed) (mark : Mark) :
    view.markCount mark = listing.elements.countP fun element ↦ view.markOf element.id = some mark :=
  calc view.markCount mark
      = (Report.ofTransition listing (.to view)).markCount mark :=
        (Report.markCount_ofTransition (.to view) hlisting h mark).symm
    _ = listing.elements.countP fun element ↦ view.markOf element.id = some mark :=
        Report.markCount_eq_countP (.to view) mark

/-! ## Counts at a token -/

namespace Statistics

/-- The number of elements that the statistics have at a token. -/
def countAt (statistics : Statistics) (token : String) : Option Nat :=
  (statistics.perTag.find? (·.1.token == token)).map Prod.snd

theorem find?_tagsByToken (tag : Tag) : tagsByToken.find? (·.token == tag.token) = some tag := by
  have hmem : tag ∈ tagsByToken := List.mem_mergeSort.2 (Tag.mem_all tag)
  exact (find?_eq_some_iff_key fun _ _ _ _ h ↦ Tag.token_injective h).2 ⟨hmem, rfl⟩

theorem countAt_ofListing (listing : Listing) (tag : Tag) :
    (ofListing listing).countAt tag.token = some (listing.tagged tag).length := by
  have hfound : tagsByToken.find? ((·.1.token == tag.token) ∘ fun tag ↦ (tag, (listing.tagged tag).length)) =
      some tag := find?_tagsByToken tag
  rw [countAt, ofListing, List.find?_map, hfound]
  rfl

end Statistics

/-! ## All facts of a kind -/

theorem marksWithin_showAll (listing : Listing) (kind : FactKind) :
    (showAll listing kind).MarksWithin listing :=
  (View.marksWithin_of_marks_eq_empty rfl).markPair _ _

/-- All facts of a kind are shown in a view that hides nothing. -/
theorem isVisible_showAll (listing : Listing) (kind : FactKind) (row : Nat) :
    (showAll listing kind).isVisible row = true := by
  rw [← Bool.not_eq_false, View.isVisible_eq_false_iff, showAll, View.hidden_markPair]
  exact Std.ExtTreeSet.not_mem_empty

section AllFacts

variable {listing : Listing} (hlisting : listing.WellFormed) (kind : FactKind)

include hlisting

theorem markOf_showAll {element : Element} (helement : element ∈ listing.elements) :
    (showAll listing kind).markOf element.id =
      if element.IsFact kind then some (element.factMark kind) else none := by
  refine Option.ext fun mark ↦ ?_
  rw [markOf_showAll_eq_some_iff hlisting, Option.ite_none_right_eq_some]
  constructor
  · rintro ⟨other, hother, hid, hfact, hmark⟩
    obtain rfl := List.inj_on_of_nodup_map hlisting.ids_nodup hother helement hid
    exact ⟨hfact, by rw [hmark]⟩
  · rintro ⟨hfact, hmark⟩
    exact ⟨element, helement, rfl, hfact, (Option.some.inj hmark).symm⟩

/-- The report on all facts of a kind lists them with their roles. -/
theorem marks_ofTransition_showAll (scroll : Option Scroll) :
    (Report.ofTransition listing ⟨showAll listing kind, scroll⟩).marks =
      (listing.elements.filter (·.IsFact kind)).map fun element ↦
        ⟨element.addresses, element.id, element.factMark kind, element.row, element.text⟩ := by
  rw [← List.filterMap_eq_map, List.filterMap_filter]
  refine List.filterMap_congr fun element helement ↦ ?_
  rw [markOf_showAll hlisting kind helement]
  by_cases hfact : element.IsFact kind <;> simp [hfact]

theorem markCount_showAll (mark : Mark) :
    (showAll listing kind).markCount mark =
      listing.elements.countP fun element ↦ element.IsFact kind ∧ element.factMark kind = mark := by
  rw [(marksWithin_showAll listing kind).markCount_eq_countP hlisting]
  refine List.countP_congr fun element helement ↦ ?_
  simp only [markOf_showAll hlisting kind helement, Option.ite_none_right_eq_some, Option.some.injEq]

theorem markCount_showAll_definition :
    (showAll listing kind).markCount .definition =
      (listing.tagged (TagPair.fact kind).definition).length := by
  rw [markCount_showAll hlisting, Listing.tagged, ← List.countP_eq_length_filter]
  refine List.countP_congr fun element _ ↦ ?_
  by_cases hdefinition : (TagPair.fact kind).definition ∈ element.tags <;>
    simp [Element.IsFact, Element.factMark, hdefinition]

/-- What carries both tags is marked as a definition. -/
theorem markCount_showAll_use :
    (showAll listing kind).markCount .use +
        listing.elements.countP (fun element ↦ (TagPair.fact kind).definition ∈ element.tags ∧
          (TagPair.fact kind).use ∈ element.tags) =
      (listing.tagged (TagPair.fact kind).use).length := by
  have hsplit := List.countP_eq_countP_filter_add listing.elements
    (fun element ↦ (TagPair.fact kind).use ∈ element.tags)
    fun element ↦ (TagPair.fact kind).definition ∈ element.tags
  rw [markCount_showAll hlisting, Listing.tagged, ← List.countP_eq_length_filter, hsplit, List.countP_filter,
    List.countP_filter, Nat.add_comm]
  congr 1
  · refine List.countP_congr fun element _ ↦ ?_
    simp [and_comm]
  · refine List.countP_congr fun element _ ↦ ?_
    by_cases hdefinition : (TagPair.fact kind).definition ∈ element.tags <;>
      simp [Element.IsFact, Element.factMark, hdefinition]

end AllFacts

/-- In every listing that is read, all facts of a kind are marked as the statistics count them; only an element
that carries both tags is counted at both and marked as a definition. The report has the marks of the view, each
once, lists the facts in the order in which they are written, and shows every row. -/
theorem showAll_agrees_with_statistics {source : String} {listing : Listing}
    (hread : Listing.ofText source = .ok listing) (kind : FactKind) :
    (∃ definitions uses,
      (Statistics.ofListing listing).countAt (TagPair.fact kind).definition.token = some definitions ∧
      (Statistics.ofListing listing).countAt (TagPair.fact kind).use.token = some uses ∧
      (showAll listing kind).markCount .definition = definitions ∧
      (showAll listing kind).markCount .use +
        listing.elements.countP (fun element ↦ (TagPair.fact kind).definition ∈ element.tags ∧
          (TagPair.fact kind).use ∈ element.tags) = uses) ∧
    ∀ scroll,
      let report := Report.ofTransition listing ⟨showAll listing kind, scroll⟩
      (showAll listing kind).marked.Perm (report.marks.map fun marked ↦ (marked.element, marked.mark)) ∧
      (report.marks.map MarkedElement.element).Sublist (listing.elements.map Element.id) ∧
      (report.marks.map MarkedElement.element).Nodup ∧
      report.marks = (listing.elements.filter (·.IsFact kind)).map (fun element ↦
        ⟨element.addresses, element.id, element.factMark kind, element.row, element.text⟩) ∧
      report.visibleRows = listing.rows.map Row.index ∧ report.hiddenRows = [] := by
  have hlisting : listing.WellFormed := .ofText hread
  refine ⟨⟨_, _, Statistics.countAt_ofListing listing _, Statistics.countAt_ofListing listing _,
    markCount_showAll_definition hlisting kind, markCount_showAll_use hlisting kind⟩, ?_⟩
  intro scroll report
  have hsublist := Report.sublist_marks_ofTransition listing ⟨showAll listing kind, scroll⟩
  refine ⟨Report.marked_perm_marks ⟨_, scroll⟩ hlisting (marksWithin_showAll listing kind), hsublist,
    hlisting.ids_nodup.sublist hsublist, marks_ofTransition_showAll hlisting kind scroll, ?_, ?_⟩
  · exact List.filter_eq_self.2 fun row _ ↦ isVisible_showAll listing kind row
  · refine List.filter_eq_nil_iff.2 fun row _ ↦ ?_
    simp [isVisible_showAll listing kind row]

/-- In the sample the first definition is a use too. It is one of three uses in the statistics, and of the three
only the other two are marked as such. -/
theorem showAll_agrees_with_statistics_overlapping :
    Listing.ofText overlappingSource = .ok overlappingListing ∧
    (Statistics.ofListing overlappingListing).countAt "ENV-DEF" = some 2 ∧
    (Statistics.ofListing overlappingListing).countAt "ENV-USE" = some 3 ∧
    (showAll overlappingListing .binding).markCount .definition = 2 ∧
    (showAll overlappingListing .binding).markCount .use = 2 ∧
    (Report.ofTransition overlappingListing (.to (showAll overlappingListing .binding))).marks.map
      (fun marked ↦ (marked.element, marked.mark)) =
        [("d", .definition), ("u", .use), ("v", .use), ("w", .definition)] := by
  obtain ⟨⟨definitions, uses, hdefinitions, huses, hmarked, hmarkedToo⟩, hreport⟩ :=
    showAll_agrees_with_statistics ofText_overlappingSource .binding
  have hfirst : (Statistics.ofListing overlappingListing).countAt "ENV-DEF" = some 2 :=
    Statistics.countAt_ofListing overlappingListing (.fact .binding .definition)
  have hsecond : (Statistics.ofListing overlappingListing).countAt "ENV-USE" = some 3 :=
    Statistics.countAt_ofListing overlappingListing (.fact .binding .use)
  obtain rfl : 2 = definitions := Option.some.inj (hfirst.symm.trans hdefinitions)
  obtain rfl : 3 = uses := Option.some.inj (hsecond.symm.trans huses)
  have hboth : overlappingListing.elements.countP (fun element ↦
      (TagPair.fact .binding).definition ∈ element.tags ∧ (TagPair.fact .binding).use ∈ element.tags) = 1 := by
    decide
  refine ⟨ofText_overlappingSource, hfirst, hsecond, hmarked, by omega, ?_⟩
  obtain ⟨-, -, -, hmarks, -⟩ := hreport none
  exact (congrArg _ hmarks).trans (by decide)

end DefUse
