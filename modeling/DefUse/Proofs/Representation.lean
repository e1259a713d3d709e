import DefUse.Proofs.Flattening
import Mathlib.Data.List.Nodup
import Mathlib.Data.List.TakeWhile

/-!
# The representation of a listing

A listing keeps the same elements three times: in written order, each with the row and the element around it,
as the lists of ids of its rows, and as the index. They grow together along the forests of an outline. The
main statement is that every outline that is accepted comes to its flat listing, and that there the three
agree: ids are distinct, and the index leads from each to the place of its element; the rows cut the elements
into consecutive parts; and what is around an element has been written before it in the same row.
-/

namespace DefUse

/-- Trimming leaves nothing of a text if and only if the text has nothing but blanks. -/
theorem Text.trim_eq_nil_iff (text : List Char) :
    trim text = [] ↔ ∀ c ∈ text, isBlank c = true := by
  unfold trim
  rw [List.reverse_eq_nil_iff, List.dropWhile_eq_nil_iff]
  simp only [List.mem_reverse]
  constructor
  · intro h
    rw [← List.dropWhile_eq_nil_iff]
    -- The first character that is left is no blank, but what is left holds only blanks.
    cases hleft : text.dropWhile isBlank with
    | nil => rfl
    | cons c rest =>
      have hblank : isBlank c = true := h c (by rw [hleft]; exact List.mem_cons_self)
      have hnot := List.head?_dropWhile_not isBlank text
      rw [hleft] at hnot
      simp [hblank] at hnot
  · intro h c hc
    exact h c ((List.dropWhile_suffix isBlank).subset hc)

section Lookup

variable {α β : Type} [BEq β] [LawfulBEq β] {entries : List α} {key : α → β} {entry : α} {wanted : β}

theorem key_of_find? (h : entries.find? (key · == wanted) = some entry) : key entry = wanted := by
  have hkey := List.find?_some h
  exact beq_iff_eq.1 hkey

/-- Where keys are distinct, what is found by a key is the entry that has the key. -/
theorem find?_eq_some_iff_key
    (hkeys : ∀ first ∈ entries, ∀ second ∈ entries, key first = key second → first = second) :
    entries.find? (key · == wanted) = some entry ↔ entry ∈ entries ∧ key entry = wanted := by
  constructor
  · intro h
    exact ⟨List.mem_of_find?_eq_some h, key_of_find? h⟩
  · rintro ⟨hentry, hkey⟩
    cases hfound : entries.find? (key · == wanted) with
    | none => exact absurd (beq_iff_eq.2 hkey) (List.find?_eq_none.1 hfound entry hentry)
    | some other =>
      have hother : other ∈ entries := List.mem_of_find?_eq_some hfound
      rw [hkeys other hother entry hentry ((key_of_find? hfound).trans hkey.symm)]

end Lookup

namespace Listing

/-- Every element that is inside another comes after it, in the same row. -/
def ParentsEarlier (elements : List Element) : Prop :=
  ∀ before element after, elements = before ++ element :: after →
    ∀ parent, element.parent = some parent →
      ∃ outer ∈ before, outer.id = parent ∧ outer.row = element.row

theorem ParentsEarlier.append {first second : List Element} (hfirst : ParentsEarlier first)
    (hsecond : ParentsEarlier second) : ParentsEarlier (first ++ second) := by
  intro before element after h parent hparent
  rcases split_append h with ⟨rest, hplace⟩ | ⟨start, rfl, hplace⟩
  · exact hfirst before element rest hplace parent hparent
  · obtain ⟨outer, houter, hid, hrow⟩ := hsecond start element after hplace parent hparent
    exact ⟨outer, List.mem_append_right _ houter, hid, hrow⟩

theorem parentsEarlier_flatMap {α : Type} {parts : List α} {elementsOf : α → List Element}
    (h : ∀ part ∈ parts, ParentsEarlier (elementsOf part)) :
    ParentsEarlier (parts.flatMap elementsOf) := by
  induction parts with
  | nil => intro before element after hnil; simp at hnil
  | cons part rest ih =>
    rw [List.flatMap_cons]
    exact (h part List.mem_cons_self).append (ih fun other hother ↦ h other (List.mem_cons_of_mem _ hother))

theorem parentsEarlier_rowElements (row : OutlineRow Label) (index : Nat) :
    ParentsEarlier (rowElements row index) := by
  intro before element after h parent hparent
  have hrow : ∀ other ∈ rowElements row index, other.row = index :=
    fun other hother ↦ Tree.row_of_mem_elementsAll hother
  rcases Tree.parent_eq_or_earlier h with hnone | ⟨outer, houter, hid⟩
  · rw [hnone] at hparent
    contradiction
  · refine ⟨outer, houter, Option.some.inj (hid.symm.trans hparent), ?_⟩
    rw [hrow outer (by rw [h]; exact List.mem_append_left _ houter),
      hrow element (by rw [h]; exact List.mem_append_right _ List.mem_cons_self)]

/-- What the rows and the elements of a listing have to do with each other. -/
structure WellFormed (listing : Listing) : Prop where
  ids_nodup : (listing.elements.map Element.id).Nodup
  ids_not_blank : ∀ element ∈ listing.elements, ∃ c ∈ element.id.toList, Text.isBlank c = false
  /-- The index leads from an id to the place of its element. -/
  index_eq_some_iff : ∀ id place,
    listing.index[id]? = some place ↔ listing.elements[place]?.map Element.id = some id
  /-- An id finds the element that has it. -/
  element?_eq_some_iff : ∀ id element,
    listing.element? id = some element ↔ element ∈ listing.elements ∧ element.id = id
  element?_eq_none_iff : ∀ id, listing.element? id = none ↔ id ∉ listing.elements.map Element.id
  row_index : ∀ (place : Nat) (row : Row), listing.rows[place]? = some row → row.index = place
  /-- The rows cut the elements into consecutive parts. -/
  rows_ids : listing.rows.flatMap Row.elements = listing.elements.map Element.id
  /-- The row of an element is the only one that lists its id. -/
  element_row : ∀ element ∈ listing.elements, ∃ row ∈ listing.rows,
    row.index = element.row ∧ ∀ other ∈ listing.rows, element.id ∈ other.elements ↔ other = row
  parents_earlier : ParentsEarlier listing.elements

/-! ## Flattening an outline -/

section Flatten

variable (outline : Outline Label)

theorem mem_elements_flatten {element : Element} :
    element ∈ (flatten outline).elements ↔
      ∃ row, outline.rows[element.row]? = some row ∧ element ∈ rowElements row element.row := by
  simp only [flatten, indexed, List.mem_flatMap, Prod.exists]
  constructor
  · rintro ⟨row, index, hplace, hmem⟩
    have hindex : element.row = index := Tree.row_of_mem_elementsAll hmem
    subst hindex
    exact ⟨row, List.mem_zipIdx_iff_getElem?.1 hplace, hmem⟩
  · rintro ⟨row, hplace, hmem⟩
    exact ⟨row, element.row, List.mem_zipIdx_iff_getElem?.2 hplace, hmem⟩

theorem getElem?_rows_flatten (place : Nat) :
    (flatten outline).rows[place]? = outline.rows[place]?.map fun row ↦ flatRow row place := by
  simp only [flatten, indexed, List.getElem?_map, List.getElem?_zipIdx, Option.map_map]
  congr 1
  funext row
  simp only [Function.comp_apply, Nat.zero_add]

theorem row_index_flatten {place : Nat} {row : Row} (h : (flatten outline).rows[place]? = some row) :
    row.index = place := by
  rw [getElem?_rows_flatten] at h
  obtain ⟨source, _, rfl⟩ := Option.map_eq_some_iff.1 h
  rfl

/-- If no id occurs twice, the row of an element is the only one that lists its id. -/
theorem element_row_flatten (hnodup : ((flatten outline).elements.map Element.id).Nodup)
    {element : Element} (h : element ∈ (flatten outline).elements) :
    ∃ row ∈ (flatten outline).rows, row.index = element.row ∧
      ∀ other ∈ (flatten outline).rows, element.id ∈ other.elements ↔ other = row := by
  obtain ⟨source, hsource, hmem⟩ := (mem_elements_flatten outline).1 h
  have hrow := getElem?_rows_flatten outline element.row
  rw [hsource, Option.map_some] at hrow
  refine ⟨_, List.mem_iff_getElem?.2 ⟨element.row, hrow⟩, rfl, fun other hother ↦ ⟨fun hid ↦ ?_, ?_⟩⟩
  · obtain ⟨place, hplace⟩ := List.mem_iff_getElem?.1 hother
    rw [getElem?_rows_flatten] at hplace
    obtain ⟨otherSource, hotherSource, rfl⟩ := Option.map_eq_some_iff.1 hplace
    obtain ⟨twin, htwin, heq⟩ := List.mem_map.1 hid
    have hplaceTwin : twin.row = place := Tree.row_of_mem_elementsAll htwin
    -- The element behind the id in the other row is the element itself.
    have hsame : twin = element := by
      refine List.inj_on_of_nodup_map hnodup ((mem_elements_flatten outline).2 ?_) h heq
      exact ⟨otherSource, by rw [hplaceTwin]; exact hotherSource, by rw [hplaceTwin]; exact htwin⟩
    rw [hsame] at hplaceTwin
    subst hplaceTwin
    rw [hsource] at hotherSource
    rw [Option.some.inj hotherSource]
  · rintro rfl
    exact List.mem_map_of_mem hmem

theorem rows_ids_flatten :
    (flatten outline).rows.flatMap Row.elements = (flatten outline).elements.map Element.id := by
  simp only [flatten, indexed, List.flatMap_map, List.map_flatMap]
  rfl

theorem parentsEarlier_flatten : ParentsEarlier (flatten outline).elements :=
  parentsEarlier_flatMap fun part _ ↦ parentsEarlier_rowElements part.1 part.2

end Flatten

/-! ## Accepting an outline -/

theorem firstFault_eq_none_iff (seen : List ElementId) (elements : List Element) :
    firstFault seen elements = none ↔
      (∀ element ∈ elements,
        (∃ c ∈ element.id.toList, Text.isBlank c = false) ∧ element.id ∉ seen) ∧
      (elements.map Element.id).Nodup := by
  induction elements generalizing seen with
  | nil => simp [firstFault]
  | cons element rest ih =>
    have hblank : (Text.trim element.id.toList).isEmpty = true ↔
        ¬∃ c ∈ element.id.toList, Text.isBlank c = false := by
      rw [List.isEmpty_iff, Text.trim_eq_nil_iff]
      simp
    rw [firstFault]
    by_cases hid : (Text.trim element.id.toList).isEmpty = true
    · rw [if_pos hid]
      have hnot := hblank.1 hid
      simp [hnot]
    · rw [if_neg hid]
      have hsome := not_not.1 (mt hblank.2 hid)
      by_cases hseen : element.id ∈ seen
      · rw [if_pos (List.contains_iff_mem.2 hseen)]
        simp [hseen]
      · rw [if_neg (mt List.contains_iff_mem.1 hseen), ih, List.map_cons, List.nodup_cons,
          List.forall_mem_cons]
        constructor
        · rintro ⟨hrest, hnodup⟩
          refine ⟨⟨⟨hsome, hseen⟩, fun other hother ↦ ?_⟩, fun hmem ↦ ?_, hnodup⟩
          · exact ⟨(hrest other hother).1, fun hmem ↦ (hrest other hother).2 (List.mem_cons_of_mem _ hmem)⟩
          · obtain ⟨other, hother, heq⟩ := List.mem_map.1 hmem
            exact (hrest other hother).2 (by rw [heq]; exact List.mem_cons_self)
        · rintro ⟨⟨_, hrest⟩, hfresh, hnodup⟩
          refine ⟨fun other hother ↦ ⟨(hrest other hother).1, fun hmem ↦ ?_⟩, hnodup⟩
          rcases List.mem_cons.1 hmem with heq | hmem
          · exact hfresh (List.mem_map.2 ⟨other, hother, heq⟩)
          · exact (hrest other hother).2 hmem

theorem ofOutline_eq_ok_iff {outline : Outline Label} {listing : Listing} :
    ofOutline outline = .ok listing ↔
      firstFault [] (flatten outline).elements = none ∧ flatten outline = listing := by
  unfold ofOutline
  cases firstFault [] (flatten outline).elements with
  | none => simp
  | some fault => simp

theorem ofDraft_eq_ok_iff {outline : Outline Draft} {listing : Listing} :
    ofDraft outline = .ok listing ↔ ofOutline (outline.map Draft.read) = .ok listing := by
  rw [ofDraft_eq]
  cases ofOutline (outline.map Draft.read) <;> simp [Except.mapError]

theorem index_eq_some_iff_of_nodup {listing : Listing} (hnodup : (listing.elements.map Element.id).Nodup)
    (id : ElementId) (place : Nat) :
    listing.index[id]? = some place ↔ listing.elements[place]?.map Element.id = some id := by
  rw [listing.index_eq]
  exact getElem?_indexOf_eq_some_iff hnodup

/-- What is found by an id is an element with the id. -/
theorem mem_of_element? {listing : Listing} {id : ElementId} {element : Element}
    (h : listing.element? id = some element) : element ∈ listing.elements ∧ element.id = id := by
  obtain ⟨place, hindex, hplace⟩ := Option.bind_eq_some_iff.1 h
  rw [listing.index_eq] at hindex
  have hid := map_id_of_getElem?_indexOf hindex
  rw [hplace, Option.map_some] at hid
  exact ⟨List.mem_of_getElem? hplace, Option.some.inj hid⟩

theorem element?_eq_none_iff_not_mem (listing : Listing) (id : ElementId) :
    listing.element? id = none ↔ id ∉ listing.elements.map Element.id := by
  constructor
  · intro h hid
    rw [← contains_indexOf_iff, ← listing.index_eq, Std.ExtTreeMap.contains_eq_isSome_getElem?] at hid
    obtain ⟨place, hindex⟩ := Option.isSome_iff_exists.1 hid
    have hplace := hindex
    rw [listing.index_eq] at hplace
    obtain ⟨element, hplace, -⟩ := Option.map_eq_some_iff.1 (map_id_of_getElem?_indexOf hplace)
    rw [element?, hindex, Option.bind_some, hplace] at h
    contradiction
  · intro hid
    rw [Option.eq_none_iff_forall_ne_some]
    rintro element h
    obtain ⟨hmem, rfl⟩ := mem_of_element? h
    exact hid (List.mem_map_of_mem hmem)

theorem element?_eq_some_iff_of_nodup {listing : Listing}
    (hnodup : (listing.elements.map Element.id).Nodup) (id : ElementId) (element : Element) :
    listing.element? id = some element ↔ element ∈ listing.elements ∧ element.id = id := by
  refine ⟨mem_of_element?, ?_⟩
  rintro ⟨hmem, rfl⟩
  have hsome : listing.element? element.id ≠ none :=
    mt (element?_eq_none_iff_not_mem _ _).1 (not_not.2 (List.mem_map_of_mem hmem))
  obtain ⟨found, hfound⟩ := Option.ne_none_iff_exists'.1 hsome
  obtain ⟨hother, hid⟩ := mem_of_element? hfound
  rw [hfound, List.inj_on_of_nodup_map hnodup hother hmem hid]

theorem mem_tagged {listing : Listing} {tag : Tag} {element : Element} :
    element ∈ listing.tagged tag ↔ element ∈ listing.elements ∧ tag ∈ element.tags := by
  simp [tagged]

theorem mem_of_mem_filter_tagged {listing : Listing} {tag : Tag} {keep : Element → Bool} :
    ∀ element ∈ (listing.tagged tag).filter keep, element ∈ listing.elements :=
  fun _ h ↦ (mem_tagged.1 (List.mem_of_mem_filter h)).1

/-- In a well-formed listing only an element itself has its id. -/
theorem WellFormed.mem_of_id_mem {listing : Listing} (h : WellFormed listing) {part : List Element}
    (hpart : ∀ member ∈ part, member ∈ listing.elements) {element : Element}
    (helement : element ∈ listing.elements) (hid : element.id ∈ part.map Element.id) :
    element ∈ part := by
  obtain ⟨member, hmember, heq⟩ := List.mem_map.1 hid
  rwa [← List.inj_on_of_nodup_map h.ids_nodup (hpart member hmember) helement heq]

theorem WellFormed.ofOutline {outline : Outline Label} {listing : Listing}
    (h : ofOutline outline = .ok listing) : WellFormed listing := by
  obtain ⟨hfault, rfl⟩ := ofOutline_eq_ok_iff.1 h
  obtain ⟨hids, hnodup⟩ := (firstFault_eq_none_iff [] _).1 hfault
  exact
    { ids_nodup := hnodup
      ids_not_blank := fun element helement ↦ (hids element helement).1
      index_eq_some_iff := index_eq_some_iff_of_nodup hnodup
      element?_eq_some_iff := element?_eq_some_iff_of_nodup hnodup
      element?_eq_none_iff := element?_eq_none_iff_not_mem _
      row_index := fun _ _ ↦ row_index_flatten outline
      rows_ids := rows_ids_flatten outline
      element_row := fun _ ↦ element_row_flatten outline hnodup
      parents_earlier := parentsEarlier_flatten outline }

theorem ofText_eq_ok_iff {source : String} {listing : Listing} :
    ofText source = .ok listing ↔ ∃ outline, Outline.ofText source = .ok outline ∧ ofDraft outline = .ok listing := by
  unfold ofText
  cases Outline.ofText source <;> simp

theorem WellFormed.ofText {source : String} {listing : Listing} (h : ofText source = .ok listing) :
    WellFormed listing := by
  obtain ⟨outline, -, houtline⟩ := ofText_eq_ok_iff.1 h
  exact .ofOutline (ofDraft_eq_ok_iff.1 houtline)

/-! ## A sample -/

/-- A definition, a use of it with an element inside, and another definition that shares an address. -/
def sampleOutline : Outline Draft :=
  ⟨[⟨some 1, "", [.node ⟨"a", "ENV-DEF DENV-DEF DEF-tag", "d", ""⟩ []]⟩,
    ⟨none, "", [.node ⟨"a", "ENV-USE DENV-USE USE-tag", "u", ""⟩ [.node ⟨"", "", "g", ""⟩ []]]⟩,
    ⟨none, "", [.node ⟨"a,b", "DENV-DEF", "w", ""⟩ []]⟩]⟩

def sampleListing : Listing :=
  .indexed [⟨0, some 1, "", ["d"]⟩, ⟨1, none, "", ["u", "g"]⟩, ⟨2, none, "", ["w"]⟩]
    [⟨"d", none, 0, "", ["a"],
      [.fact .binding .definition, .linked .definition, .navigable .binding .definition]⟩,
     ⟨"u", none, 1, "", ["a"], [.fact .binding .use, .linked .use, .navigable .binding .use]⟩,
     ⟨"g", some "u", 1, "", [], []⟩,
     ⟨"w", none, 2, "", ["a", "b"], [.navigable .binding .definition]⟩]

theorem ofDraft_sampleOutline : ofDraft sampleOutline = .ok sampleListing := by
  decide +kernel

/-- The sample as a text. -/
def sampleSource : String :=
  "\x7b\"rows\":[\x7b\"line\":1,\"elements\":[" ++
    "\x7b\"id\":\"d\",\"class\":\"ENV-DEF DENV-DEF DEF-tag\",\"address\":\"a\"\x7d]\x7d," ++
  "\x7b\"elements\":[\x7b\"id\":\"u\",\"class\":\"ENV-USE DENV-USE USE-tag\",\"address\":\"a\"," ++
    "\"children\":[\x7b\"id\":\"g\"\x7d]\x7d]\x7d," ++
  "\x7b\"elements\":[\x7b\"id\":\"w\",\"class\":\"DENV-DEF\",\"address\":\"a,b\"\x7d]\x7d]\x7d"

theorem ofText_sampleSource : ofText sampleSource = .ok sampleListing := by
  decide +kernel

/-! ## Accepted outlines -/

/-- Every outline that is accepted grows to its flat listing, and that is well-formed. -/
theorem wellFormed_of_ofDraft_eq_ok {outline : Outline Draft} {listing : Listing}
    (h : ofDraft outline = .ok listing) :
    listing = flatten (outline.map Draft.read) ∧ WellFormed listing :=
  ⟨eq_flatten_of_ofDraft h, .ofOutline (ofDraft_eq_ok_iff.1 h)⟩

theorem wellFormed_sampleListing :
    ofDraft sampleOutline = .ok sampleListing ∧ sampleListing = flatten (sampleOutline.map Draft.read) ∧
      WellFormed sampleListing ∧ sampleListing.index.toList = [("d", 0), ("g", 2), ("u", 1), ("w", 3)] := by
  obtain ⟨hflatten, hwellFormed⟩ := wellFormed_of_ofDraft_eq_ok ofDraft_sampleOutline
  exact ⟨ofDraft_sampleOutline, hflatten, hwellFormed, by decide +kernel⟩

end Listing

end DefUse
