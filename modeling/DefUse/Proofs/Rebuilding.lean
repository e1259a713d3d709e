import DefUse.Proofs.Representation

/-!
# Rebuilding an outline

Flattening writes a forest as one list of elements, in which each element names the one around it. This
module rebuilds the forest: inside an element is what comes before the next element with the same
parent. The main statement is that nothing is lost, so two listings are equal only if they were written
alike.
-/

namespace DefUse

/-- What is written of an element, apart from its place. -/
def Element.label (element : Element) : Label :=
  ⟨element.id, element.addresses, element.tags, element.text⟩

@[simp] theorem Label.label_element (label : Label) (row : Nat) (parent : Option ElementId) :
    (label.element row parent).label = label := rfl

/-- The tags of a class text stand in one fixed order, so that they are known from their set. -/
theorem Tag.ofClass_eq_iff (classes others : String) :
    ofClass classes = ofClass others ↔ ∀ tag, tag ∈ ofClass classes ↔ tag ∈ ofClass others := by
  constructor
  · intro h tag
    rw [h]
  · intro h
    unfold ofClass at h ⊢
    apply List.filter_congr
    intro tag htag
    have hsame := h tag
    simp only [List.mem_filter, htag, true_and] at hsame
    exact Bool.eq_iff_iff.2 hsame

namespace Tree

/-- The forest with these elements, inside a parent. -/
def ofElements (parent : Option ElementId) : List Element → List (Tree Label)
  | [] => []
  | element :: rest =>
    .node element.label (ofElements (some element.id) (rest.takeWhile (·.parent ≠ parent))) ::
      ofElements parent (rest.dropWhile (·.parent ≠ parent))
termination_by elements => elements.length
decreasing_by
  · exact Nat.lt_succ_of_le (List.takeWhile_prefix _).length_le
  · exact Nat.lt_succ_of_le (List.dropWhile_suffix _).length_le

theorem parent_of_mem_elementsAll {row : Nat} {parent : Option ElementId} {trees : List (Tree Label)}
    {element : Element} (h : element ∈ elementsAll row parent trees) :
    element.parent = parent ∨ ∃ outer ∈ elementsAll row parent trees, element.parent = some outer.id := by
  obtain ⟨before, after, hplace⟩ := List.append_of_mem h
  rcases parent_eq_or_earlier hplace with hparent | ⟨outer, houter, hparent⟩
  · exact .inl hparent
  · exact .inr ⟨outer, by rw [hplace]; exact List.mem_append_left _ houter, hparent⟩

theorem parent_of_head?_elementsAll {row : Nat} {parent : Option ElementId}
    {trees : List (Tree Label)} {element : Element}
    (h : (elementsAll row parent trees).head? = some element) : element.parent = parent := by
  cases trees with
  | nil => simp [elementsAll_nil] at h
  | cons tree rest =>
    rcases tree with ⟨label, children⟩
    rw [elementsAll_node, List.head?_cons] at h
    rw [← Option.some.inj h]
    rfl

/-- A first part in which nobody has the given parent, before a part that starts with it, is what stands
inside an element. -/
theorem ofElements_cons_append {parent : Option ElementId} {element : Element}
    {inside behind : List Element} (hinside : ∀ inner ∈ inside, inner.parent ≠ parent)
    (hbehind : ∀ next, behind.head? = some next → next.parent = parent) :
    ofElements parent (element :: (inside ++ behind)) =
      .node element.label (ofElements (some element.id) inside) :: ofElements parent behind := by
  have hpos : ∀ inner ∈ inside, decide (inner.parent ≠ parent) = true :=
    fun inner hinner ↦ decide_eq_true (hinside inner hinner)
  rw [ofElements, List.takeWhile_append_of_pos hpos, List.dropWhile_append_of_pos hpos]
  cases behind with
  | nil => simp
  | cons next rest => simp [hbehind next rfl]

/-- Rebuilding undoes flattening. Ids are distinct, so that an element cannot be taken for the one around
the forest. -/
theorem ofElements_elementsAll {row : Nat} {parent : Option ElementId} {trees : List (Tree Label)}
    (hnodup : ((elementsAll row parent trees).map Element.id).Nodup)
    (hfresh : ∀ element ∈ elementsAll row parent trees, parent ≠ some element.id) :
    ofElements parent (elementsAll row parent trees) = trees := by
  induction trees using forestInduction generalizing parent with
  | nil => rw [elementsAll_nil, ofElements]
  | node label children rest ihchildren ihrest =>
    rw [elementsAll_node, List.map_cons, List.map_append, List.nodup_cons, List.nodup_append] at hnodup
    obtain ⟨hlabel, hchildren, hrest, _⟩ := hnodup
    rw [elementsAll_node, List.forall_mem_cons] at hfresh
    obtain ⟨hparent, hfresh⟩ := hfresh
    have hinside : ∀ inner ∈ elementsAll row (some label.id) children, inner.parent ≠ parent := by
      intro inner hinner
      rcases parent_of_mem_elementsAll hinner with h | ⟨outer, houter, h⟩
      · rw [h]
        exact hparent.symm
      · rw [h]
        exact (hfresh outer (List.mem_append_left _ houter)).symm
    have hbelow : ∀ inner ∈ elementsAll row (some label.id) children, some label.id ≠ some inner.id := by
      intro inner hinner h
      have hid : inner.id = label.id := (Option.some.inj h).symm
      exact hlabel (List.mem_append_left _ (List.mem_map.2 ⟨inner, hinner, hid⟩))
    rw [elementsAll_node, ofElements_cons_append hinside fun _ ↦ parent_of_head?_elementsAll,
      Label.label_element]
    change Tree.node label (ofElements (some label.id) _) :: _ = _
    rw [ihchildren hchildren hbelow,
      ihrest hrest fun element helement ↦ hfresh element (List.mem_append_right _ helement)]

end Tree

namespace Listing

/-- The elements that the ids of a row name. -/
def elementsOf (listing : Listing) (row : Row) : List Element := row.elements.filterMap listing.element?

/-- The outline that a listing shows. -/
def outline (listing : Listing) : Outline Label :=
  ⟨listing.rows.map fun row ↦ ⟨row.line, row.text, Tree.ofElements none (listing.elementsOf row)⟩⟩

/-- The ids of a row name its elements. -/
theorem filterMap_element?_rowElements {outline : Outline Label}
    (hnodup : ((flatten outline).elements.map Element.id).Nodup) {row : OutlineRow Label} {place : Nat}
    (hrow : outline.rows[place]? = some row) :
    ((rowElements row place).map Element.id).filterMap (flatten outline).element? =
      rowElements row place := by
  rw [List.filterMap_map]
  calc
    _ = (rowElements row place).filterMap some := by
      refine List.filterMap_congr fun element helement ↦ ?_
      have hplace : element.row = place := Tree.row_of_mem_elementsAll helement
      refine (element?_eq_some_iff_of_nodup hnodup element.id element).2 ⟨?_, rfl⟩
      refine (mem_elements_flatten outline).2 ⟨row, ?_, ?_⟩
      · rw [hplace]
        exact hrow
      · rw [hplace]
        exact helement
    _ = _ := List.filterMap_some

theorem outline_eq_of_ofOutline {source : Outline Label} {listing : Listing}
    (h : ofOutline source = .ok listing) : listing.outline = source := by
  obtain ⟨hfault, rfl⟩ := ofOutline_eq_ok_iff.1 h
  have hnodup := ((firstFault_eq_none_iff [] _).1 hfault).2
  have hrows : (flatten source).outline.rows = source.rows := by
    refine List.ext_getElem? fun place ↦ ?_
    rw [outline, List.getElem?_map, getElem?_rows_flatten]
    cases hrow : source.rows[place]? with
    | none => rfl
    | some row =>
      have hids : ((rowElements row place).map Element.id).Nodup := by
        rw [← rows_ids_flatten, List.nodup_flatMap] at hnodup
        have hplace := getElem?_rows_flatten source place
        rw [hrow, Option.map_some] at hplace
        exact hnodup.1 _ (List.mem_iff_getElem?.2 ⟨place, hplace⟩)
      rw [Option.map_some, Option.map_some, elementsOf, flatRow, filterMap_element?_rowElements hnodup hrow,
        rowElements, Tree.ofElements_elementsAll hids (by simp)]
  cases source
  exact congrArg Outline.mk hrows

/-- Two accepted outlines give the same listing if and only if they agree once every address text is
replaced by its segments and every class text by its set of tags, because the outline that has been read
can be rebuilt from the listing. -/
theorem eq_iff_read_eq_of_ofDraft {first second : Outline Draft} {listing other : Listing}
    (hfirst : ofDraft first = .ok listing) (hsecond : ofDraft second = .ok other) :
    (listing = other ↔ first.map Draft.read = second.map Draft.read) ∧
      listing.outline = first.map Draft.read ∧
      ∀ classes others, Tag.ofClass classes = Tag.ofClass others ↔
        ∀ tag, tag ∈ Tag.ofClass classes ↔ tag ∈ Tag.ofClass others := by
  rw [ofDraft_eq_ok_iff] at hfirst hsecond
  have hlisting := outline_eq_of_ofOutline hfirst
  have hother := outline_eq_of_ofOutline hsecond
  refine ⟨⟨fun h ↦ ?_, fun h ↦ ?_⟩, hlisting, Tag.ofClass_eq_iff⟩
  · rw [← hlisting, ← hother, h]
  · rw [h] at hfirst
    exact Except.ok.inj (hfirst.symm.trans hsecond)

/-- The sample with its addresses and classes spelled in other ways. -/
def respelledOutline : Outline Draft :=
  ⟨[⟨some 1, "", [.node ⟨"a,", "  DEF-tag  ENV-DEF insert DENV-DEF", "d", ""⟩ []]⟩,
    ⟨none, "", [.node ⟨",a", "USE-tag DENV-USE ENV-USE USE-tag", "u", ""⟩
      [.node ⟨",", "glyph", "g", ""⟩ []]]⟩,
    ⟨none, "", [.node ⟨"a,,b", "DENV-DEF DENV-DEF", "w", ""⟩ []]⟩]⟩

theorem sampleOutline_read_eq_respelledOutline_read :
    ofDraft sampleOutline = .ok sampleListing ∧ ofDraft respelledOutline = .ok sampleListing ∧
      sampleOutline.map Draft.read = respelledOutline.map Draft.read ∧
      sampleListing.outline = sampleOutline.map Draft.read := by
  have hrespelled : ofDraft respelledOutline = .ok sampleListing := by decide +kernel
  have h := eq_iff_read_eq_of_ofDraft ofDraft_sampleOutline hrespelled
  exact ⟨ofDraft_sampleOutline, hrespelled, h.1.1 rfl, h.2.1⟩

end Listing

end DefUse
