import DefUse.Proofs.JsonText
import DefUse.Proofs.Reachable
import DefUse.Report

/-!
# What a report holds

A report lists the marked elements of the listing and its hidden rows. A view that marks and hides nothing
else can be told from them, so a transition can be told from its report. The JSON text of a report holds all
of the report, with the scroll duration in full.
-/

namespace DefUse

theorem Mark.name_injective : Function.Injective Mark.name := by
  intro mark other h
  cases mark <;> cases other <;> simp_all [Mark.name]

namespace Json.Value

theorem ofList_injective {α : Type} {f : α → Value} (hf : Function.Injective f) :
    Function.Injective (ofList f) := by
  intro items others h
  exact List.map_injective_iff.2 hf (array.inj h)

theorem ofOption_injective {α : Type} {f : α → Value} (hf : Function.Injective f)
    (hnull : ∀ value, f value ≠ .null) : Function.Injective (ofOption f) := by
  intro first second h
  cases first with
  | none =>
    cases second with
    | none => rfl
    | some value => exact absurd h.symm (hnull value)
  | some value =>
    cases second with
    | none => exact absurd h (hnull value)
    | some other => exact congrArg some (hf h)

end Json.Value

/-- The view marks elements of the listing only, and hides rows of it only. -/
structure ShowsWithin (listing : Listing) (view : View) : Prop where
  marksWithin : view.MarksWithin listing
  hidesWithin : HidesWithin listing view

namespace Report

open Json (Value)

/-! ## From the text to the report -/

theorem scrollValue_injective : Function.Injective scrollValue := by
  intro scroll other h
  simp only [scrollValue, Value.object.injEq, List.cons.injEq, Prod.mk.injEq, Value.number.injEq,
    Value.string.injEq, UInt64.toNat_inj, true_and, and_true] at h
  obtain ⟨hduration, helement, hrow⟩ := h
  cases scroll
  cases other
  simp_all

theorem markValue_injective : Function.Injective markValue := by
  intro marked other h
  simp only [markValue, Value.object.injEq, List.cons.injEq, Prod.mk.injEq, Value.number.injEq,
    Value.string.injEq, true_and, and_true] at h
  obtain ⟨haddresses, helement, hmark, hrow, htext⟩ := h
  have haddresses := Value.ofList_injective (fun _ _ ↦ Value.string.inj) haddresses
  have hmark := Mark.name_injective hmark
  cases marked
  cases other
  simp_all

theorem value_injective : Function.Injective value := by
  intro report other h
  simp only [value, Value.object.injEq, List.cons.injEq, Prod.mk.injEq, true_and, and_true] at h
  obtain ⟨hhidden, hmarks, hscroll, hvisible⟩ := h
  have hrows := Value.ofList_injective (fun _ _ ↦ Value.number.inj)
  have hhidden := hrows hhidden
  have hmarks := Value.ofList_injective markValue_injective hmarks
  have hscroll := Value.ofOption_injective scrollValue_injective (fun _ ↦ by simp [scrollValue]) hscroll
  have hvisible := hrows hvisible
  cases report
  cases other
  simp_all

/-! ## From the report to the transition -/

section Transitions

variable {listing : Listing} {transition : Transition}

theorem mem_marks_ofTransition {marked : MarkedElement} :
    marked ∈ (ofTransition listing transition).marks ↔
      ∃ element ∈ listing.elements, transition.view.markOf element.id = some marked.mark ∧
        marked = ⟨element.addresses, element.id, marked.mark, element.row, element.text⟩ := by
  simp only [ofTransition, List.mem_filterMap, Option.map_eq_some_iff]
  constructor
  · rintro ⟨element, helement, mark, hmark, rfl⟩
    exact ⟨element, helement, hmark, rfl⟩
  · rintro ⟨element, helement, hmark, heq⟩
    exact ⟨element, helement, marked.mark, hmark, heq.symm⟩

/-- The marks of a view that marks nothing else are those of its report. -/
theorem markOf_eq_some_iff_marks (h : transition.view.MarksWithin listing) (id : ElementId) (mark : Mark) :
    transition.view.markOf id = some mark ↔
      ∃ marked ∈ (ofTransition listing transition).marks, marked.element = id ∧ marked.mark = mark := by
  constructor
  · intro hmark
    obtain ⟨element, helement, rfl⟩ := h id mark hmark
    let marked : MarkedElement := ⟨element.addresses, element.id, mark, element.row, element.text⟩
    have hmarked : marked ∈ (ofTransition listing transition).marks :=
      mem_marks_ofTransition.2 ⟨element, helement, hmark, rfl⟩
    exact ⟨marked, hmarked, rfl, rfl⟩
  · rintro ⟨marked, hmarked, rfl, rfl⟩
    obtain ⟨element, -, hmark, heq⟩ := mem_marks_ofTransition.1 hmarked
    rw [heq]
    exact hmark

/-- The hidden rows of a view that hides no other row are those of its report. -/
theorem mem_hidden_iff_hiddenRows (h : HidesWithin listing transition.view) (index : Nat) :
    index ∈ transition.view.hidden ↔ index ∈ (ofTransition listing transition).hiddenRows := by
  have hmem : index ∈ (ofTransition listing transition).hiddenRows ↔
      index ∈ listing.rows.map Row.index ∧ index ∈ transition.view.hidden := by
    simp [ofTransition, View.isVisible]
  rw [hmem]
  constructor
  · intro hindex
    exact ⟨List.mem_map.2 (h index hindex), hindex⟩
  · exact And.right

theorem ofTransition_inj {first second : Transition} (hfirst : ShowsWithin listing first.view)
    (hsecond : ShowsWithin listing second.view)
    (h : ofTransition listing first = ofTransition listing second) : first = second := by
  have hmarks : first.view.marks = second.view.marks := by
    apply Std.ExtTreeMap.ext_getElem?
    intro id
    apply Option.ext
    intro mark
    calc first.view.markOf id = some mark
        ↔ ∃ marked ∈ (ofTransition listing first).marks, marked.element = id ∧ marked.mark = mark :=
          markOf_eq_some_iff_marks hfirst.marksWithin id mark
      _ ↔ ∃ marked ∈ (ofTransition listing second).marks, marked.element = id ∧ marked.mark = mark := by
          rw [h]
      _ ↔ second.view.markOf id = some mark := (markOf_eq_some_iff_marks hsecond.marksWithin id mark).symm
  have hhidden : first.view.hidden = second.view.hidden := by
    apply Std.ExtTreeSet.ext_mem
    intro index
    calc index ∈ first.view.hidden
        ↔ index ∈ (ofTransition listing first).hiddenRows :=
          mem_hidden_iff_hiddenRows hfirst.hidesWithin index
      _ ↔ index ∈ (ofTransition listing second).hiddenRows := by rw [h]
      _ ↔ index ∈ second.view.hidden := (mem_hidden_iff_hiddenRows hsecond.hidesWithin index).symm
  have hview : first.view = second.view := View.eq_of_parts hmarks hhidden
  have hscroll : first.scroll = second.scroll := congrArg scroll h
  cases first
  cases second
  simp_all

end Transitions

/-- Of transitions that show a listing that is read, the JSON reports are the same only if the transitions
are; and all views that operations reach show no more than the listing. -/
theorem render_json_eq_iff {source : String} {listing : Listing}
    (hread : Listing.ofText source = .ok listing) :
    (∀ first second : Transition, ShowsWithin listing first.view → ShowsWithin listing second.view →
      ((ofTransition listing first).render listing .json =
          (ofTransition listing second).render listing .json ↔ first = second)) ∧
    ∀ view, Reachable listing view → ShowsWithin listing view := by
  constructor
  · intro first second hfirst hsecond
    constructor
    · intro h
      exact ofTransition_inj hfirst hsecond (value_injective (Value.pretty_injective h))
    · intro h
      rw [h]
  · intro view hview
    have hinvariant := viewInvariant_of_reachable (.ofText hread) hview
    exact ⟨hinvariant.marksWithin, hinvariant.hidesWithin⟩

theorem render_json_sampleView :
    Listing.ofText Listing.sampleSource = .ok Listing.sampleListing ∧
      ShowsWithin Listing.sampleListing sampleView ∧
      sampleView.marked = [("d", .definition), ("u", .definition)] ∧ sampleView.hiddenRows = [2] ∧
      (ofTransition Listing.sampleListing ⟨sampleView, some ⟨18446744073709551615, "d", 0⟩⟩).render
          Listing.sampleListing .json ≠
        (ofTransition Listing.sampleListing ⟨sampleView, some ⟨18446744073709551614, "d", 0⟩⟩).render
          Listing.sampleListing .json := by
  have hreachable : Reachable Listing.sampleListing sampleView :=
    .apply 200 ⟨.link, some "g"⟩ (.apply 200 ⟨.highlight .slice .binding, some "g"⟩ .initial)
  obtain ⟨hiff, hwithin⟩ := render_json_eq_iff Listing.ofText_sampleSource
  have hview := hwithin sampleView hreachable
  refine ⟨Listing.ofText_sampleSource, hview, by decide +kernel, by decide +kernel, ?_⟩
  intro h
  have heq := (hiff ⟨sampleView, some ⟨18446744073709551615, "d", 0⟩⟩
    ⟨sampleView, some ⟨18446744073709551614, "d", 0⟩⟩ hview hview).1 h
  simp at heq

end Report

end DefUse
