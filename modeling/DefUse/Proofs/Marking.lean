import DefUse.Proofs.Representation
import DefUse.View

/-!
# Marks and hidden rows

Marking changes the marks of a view alone, and hiding or showing rows changes its hidden rows alone. An
element that is marked several times keeps the last of its marks. In a well-formed listing an id stands
for one element, so it can be said of elements, and not only of ids, how a marking marks them.
-/

namespace DefUse.View

@[simp] theorem marks_clearMarks (view : View) : view.clearMarks.marks = ∅ := rfl

@[simp] theorem hidden_clearMarks (view : View) : view.clearMarks.hidden = view.hidden := rfl

@[simp] theorem marks_hideAllRows (listing : Listing) (view : View) :
    (view.hideAllRows listing).marks = view.marks := rfl

@[simp] theorem hidden_hideAllRows (listing : Listing) (view : View) :
    (view.hideAllRows listing).hidden = Std.ExtTreeSet.ofList (listing.rows.map Row.index) := rfl

@[simp] theorem marks_showAllRows (view : View) : view.showAllRows.marks = view.marks := rfl

@[simp] theorem hidden_showAllRows (view : View) : view.showAllRows.hidden = ∅ := rfl

@[simp] theorem marks_mark (view : View) (id : ElementId) (mark : Mark) :
    (view.mark id mark).marks = view.marks.insert id mark := rfl

@[simp] theorem hidden_mark (view : View) (id : ElementId) (mark : Mark) :
    (view.mark id mark).hidden = view.hidden := rfl

/-- Marking a list of elements is a run of insertions into the marks. -/
@[simp] theorem marks_markAll (view : View) (elements : List Element) (mark : Mark) :
    (view.markAll elements mark).marks =
      elements.foldl (fun marks element ↦ marks.insert element.id mark) view.marks := by
  induction elements generalizing view with
  | nil => rfl
  | cons element rest ih => exact ih (view.mark element.id mark)

@[simp] theorem hidden_markAll (view : View) (elements : List Element) (mark : Mark) :
    (view.markAll elements mark).hidden = view.hidden := by
  induction elements generalizing view with
  | nil => rfl
  | cons element rest ih => exact ih (view.mark element.id mark)

@[simp] theorem hidden_markPair (listing : Listing) (pair : TagPair) (keep : Element → Bool)
    (view : View) : (view.markPair listing pair keep).hidden = view.hidden := by
  rw [markPair, hidden_markAll, hidden_markAll]

@[simp] theorem marks_showRows (view : View) (rows : List Nat) :
    (view.showRows rows).marks = view.marks := by
  induction rows generalizing view with
  | nil => rfl
  | cons row rest ih => exact ih (view.showRow row)

/-- Showing a list of rows is a run of removals from the hidden rows. -/
@[simp] theorem hidden_showRows (view : View) (rows : List Nat) :
    (view.showRows rows).hidden = rows.foldl (fun hidden row ↦ hidden.erase row) view.hidden := by
  induction rows generalizing view with
  | nil => rfl
  | cons row rest ih => exact ih (view.showRow row)

/-- A marking of a pair depends on the marks that were there before, and on nothing else of the
view. -/
theorem marks_markPair_congr (listing : Listing) (pair : TagPair) (keep : Element → Bool)
    {view other : View} (h : view.marks = other.marks) :
    (view.markPair listing pair keep).marks = (other.markPair listing pair keep).marks := by
  simp only [markPair, marks_markAll, h]

theorem markOf_mark (view : View) (id other : ElementId) (mark : Mark) :
    (view.mark id mark).markOf other = if id = other then some mark else view.markOf other := by
  simp [markOf, Std.ExtTreeMap.getElem?_insert]

theorem markOf_markAll (view : View) (elements : List Element) (mark : Mark) (id : ElementId) :
    (view.markAll elements mark).markOf id =
      if id ∈ elements.map Element.id then some mark else view.markOf id := by
  induction elements generalizing view with
  | nil => simp [markAll]
  | cons element rest ih =>
    change ((view.mark element.id mark).markAll rest mark).markOf id = _
    rw [ih, markOf_mark, List.map_cons]
    by_cases hrest : id ∈ rest.map Element.id
    · rw [if_pos hrest, if_pos (List.mem_cons_of_mem _ hrest)]
    · rw [if_neg hrest]
      by_cases hid : element.id = id
      · rw [if_pos hid, if_pos (by simp [hid])]
      · rw [if_neg hid, if_neg (by simpa [Ne.symm hid] using hrest)]

theorem mem_hidden_showRows (view : View) (rows : List Nat) (row : Nat) :
    row ∈ (view.showRows rows).hidden ↔ row ∈ view.hidden ∧ row ∉ rows := by
  induction rows generalizing view with
  | nil => simp [showRows]
  | cons first rest ih =>
    change row ∈ ((view.showRow first).showRows rest).hidden ↔ _
    rw [ih, showRow, Std.ExtTreeSet.mem_erase, List.mem_cons]
    simp only [ne_eq, Std.LawfulEqCmp.compare_eq_iff_eq, not_or]
    constructor
    · rintro ⟨⟨hfirst, hrow⟩, hrest⟩
      exact ⟨hrow, Ne.symm hfirst, hrest⟩
    · rintro ⟨hrow, hfirst, hrest⟩
      exact ⟨⟨Ne.symm hfirst, hrow⟩, hrest⟩

theorem mem_hidden_hideAllRows (listing : Listing) (view : View) (row : Nat) :
    row ∈ (view.hideAllRows listing).hidden ↔ row ∈ listing.rows.map Row.index := by
  rw [hidden_hideAllRows, Std.ExtTreeSet.mem_ofList, List.contains_iff_mem]

/-! ## Marked elements of a listing -/

section Elements

variable {listing : Listing} {view : View} {element : Element} {mark : Mark}

/-- The view marks an element of the listing. -/
def Marks (view : View) (listing : Listing) (element : Element) (mark : Mark) : Prop :=
  element ∈ listing.elements ∧ view.markOf element.id = some mark

theorem not_marks_of_marks_eq_empty (h : view.marks = ∅) : ¬view.Marks listing element mark := by
  rintro ⟨_, hmark⟩
  rw [markOf, h] at hmark
  simp at hmark

/-- The elements of a list take the new mark, all others keep what they had. -/
theorem marks_markAll_iff (hlisting : listing.WellFormed) {part : List Element}
    (hpart : ∀ member ∈ part, member ∈ listing.elements) {added : Mark} :
    (view.markAll part added).Marks listing element mark ↔
      element ∈ part ∧ mark = added ∨ element ∉ part ∧ view.Marks listing element mark := by
  unfold Marks
  rw [markOf_markAll]
  constructor
  · rintro ⟨helement, hmark⟩
    by_cases hmem : element ∈ part
    · rw [if_pos (List.mem_map_of_mem hmem)] at hmark
      exact .inl ⟨hmem, (Option.some.inj hmark).symm⟩
    · rw [if_neg (mt (hlisting.mem_of_id_mem hpart helement) hmem)] at hmark
      exact .inr ⟨hmem, helement, hmark⟩
  · rintro (⟨hmem, rfl⟩ | ⟨hmem, helement, hmark⟩)
    · exact ⟨hpart element hmem, if_pos (List.mem_map_of_mem hmem)⟩
    · refine ⟨helement, ?_⟩
      rw [if_neg (mt (hlisting.mem_of_id_mem hpart helement) hmem)]
      exact hmark

theorem marks_mark_iff (hlisting : listing.WellFormed) {selected : Element}
    (hselected : selected ∈ listing.elements) {added : Mark} :
    (view.mark selected.id added).Marks listing element mark ↔
      element = selected ∧ mark = added ∨ element ≠ selected ∧ view.Marks listing element mark := by
  have hpart : ∀ member ∈ [selected], member ∈ listing.elements := by simpa using hselected
  have h := @marks_markAll_iff listing view element mark hlisting [selected] hpart added
  simp only [List.mem_singleton] at h
  exact h

/-- A marking of a pair in a view without marks gives the kept elements their role, and no other element
a mark. -/
theorem marks_markPair_iff (hlisting : listing.WellFormed) {pair : TagPair} {keep : Element → Bool}
    (hempty : view.marks = ∅) :
    (view.markPair listing pair keep).Marks listing element mark ↔
      element ∈ listing.elements ∧ keep element = true ∧
        (pair.definition ∈ element.tags ∧ mark = .definition ∨
          pair.definition ∉ element.tags ∧ pair.use ∈ element.tags ∧ mark = .use) := by
  have hmem (tag : Tag) : element ∈ (listing.tagged tag).filter keep ↔
      (element ∈ listing.elements ∧ tag ∈ element.tags) ∧ keep element = true := by
    rw [List.mem_filter, Listing.mem_tagged]
  rw [markPair, marks_markAll_iff hlisting Listing.mem_of_mem_filter_tagged,
    marks_markAll_iff hlisting Listing.mem_of_mem_filter_tagged, hmem, hmem]
  have hnone : ¬view.Marks listing element mark := not_marks_of_marks_eq_empty hempty
  simp only [hnone, and_false, or_false]
  by_cases helement : element ∈ listing.elements
  · by_cases hkeep : keep element = true
    · by_cases hdefinition : pair.definition ∈ element.tags <;> simp [helement, hkeep, hdefinition]
    · simp [hkeep]
  · simp [helement]

end Elements

section Within

variable {listing : Listing} {view : View}

/-- Only elements of the listing are marked. -/
def MarksWithin (view : View) (listing : Listing) : Prop :=
  ∀ id mark, view.markOf id = some mark → ∃ element ∈ listing.elements, element.id = id

theorem marksWithin_of_marks_eq_empty (h : view.marks = ∅) : view.MarksWithin listing := by
  intro id mark hmark
  rw [markOf, h] at hmark
  simp at hmark

theorem MarksWithin.congr {other : View} (h : view.MarksWithin listing)
    (hmarks : other.marks = view.marks) : other.MarksWithin listing := by
  unfold MarksWithin markOf
  rw [hmarks]
  exact h

theorem MarksWithin.markAll (h : view.MarksWithin listing) {part : List Element}
    (hpart : ∀ member ∈ part, member ∈ listing.elements) (added : Mark) :
    (view.markAll part added).MarksWithin listing := by
  intro id mark hmark
  rw [markOf_markAll] at hmark
  by_cases hid : id ∈ part.map Element.id
  · obtain ⟨member, hmember, rfl⟩ := List.mem_map.1 hid
    exact ⟨member, hpart member hmember, rfl⟩
  · rw [if_neg hid] at hmark
    exact h id mark hmark

theorem MarksWithin.mark (h : view.MarksWithin listing) {selected : Element}
    (hselected : selected ∈ listing.elements) (added : Mark) :
    (view.mark selected.id added).MarksWithin listing :=
  have hpart : ∀ member ∈ [selected], member ∈ listing.elements := by simpa using hselected
  h.markAll hpart added

theorem MarksWithin.markPair (h : view.MarksWithin listing) (pair : TagPair) (keep : Element → Bool) :
    (view.markPair listing pair keep).MarksWithin listing :=
  (h.markAll Listing.mem_of_mem_filter_tagged .use).markAll Listing.mem_of_mem_filter_tagged .definition

end Within

end DefUse.View
