import DefUse.Proofs.Paths
import DefUse.Proofs.Representation
import Mathlib.Data.List.Induction

/-!
# Which outlines are accepted

The ids of an outline are checked in the order in which they are written, a node before the nodes inside it,
one row after the other. An id is faulty if it is blank or has been written before. The main statement is that
an outline is accepted exactly if it has no faulty id, and is otherwise refused for the first one, with the
index of its row.
-/

namespace DefUse

/-- Where an element is found: its id and its row. -/
def Element.place (element : Element) : ElementId × Nat := (element.id, element.row)

/-- The ids of an outline as they are written, each with the index of its row. -/
def Outline.places (outline : Outline Draft) : List (ElementId × Nat) :=
  outline.rows.zipIdx.flatMap fun (row, index) ↦ (Tree.labelsAll row.trees).map fun draft ↦ (draft.id, index)

/-- Nothing but blanks. -/
def IsBlankId (id : ElementId) : Prop := ∀ c ∈ id.toList, Text.isBlank c = true

theorem isEmpty_trim_iff (id : ElementId) : (Text.trim id.toList).isEmpty = true ↔ IsBlankId id := by
  rw [List.isEmpty_iff, Text.trim_eq_nil_iff]
  rfl

instance (id : ElementId) : Decidable (IsBlankId id) := decidable_of_iff _ (isEmpty_trim_iff id)

namespace Listing

/-- No id is blank, and none has been written before. -/
def Faultless (places : List (ElementId × Nat)) : Prop :=
  (∀ place ∈ places, ∃ c ∈ place.1.toList, Text.isBlank c = false) ∧ (places.map Prod.fst).Nodup

instance (places : List (ElementId × Nat)) : Decidable (Faultless places) :=
  decidable_of_iff ((∀ place ∈ places, ¬IsBlankId place.1) ∧ (places.map Prod.fst).Nodup)
    (by simp [Faultless, IsBlankId])

/-- The fault of an id behind others. -/
inductive FaultBehind (before : List (ElementId × Nat)) (id : ElementId) (row : Nat) : Fault → Prop where
  | blank (hblank : IsBlankId id) : FaultBehind before id row (.blankId row)
  | repeated (hblank : ¬IsBlankId id) (hbefore : id ∈ before.map Prod.fst) :
      FaultBehind before id row (.repeatedId id row)

/-! ## Places of elements -/

theorem map_place_rowElements (row : OutlineRow Draft) (index : Nat) :
    (rowElements (row.map Draft.read) index).map Element.place =
      (Tree.labelsAll row.trees).map fun draft ↦ (draft.id, index) := by
  have hplace : ∀ element ∈ rowElements (row.map Draft.read) index, element.place = (element.id, index) := by
    intro element helement
    rw [Element.place, Tree.row_of_mem_elementsAll helement]
  calc (rowElements (row.map Draft.read) index).map Element.place
      = ((rowElements (row.map Draft.read) index).map Element.id).map fun id ↦ (id, index) := by
        rw [List.map_congr_left hplace, List.map_map]
        rfl
    _ = ((Tree.labelsAll row.trees).map Draft.id).map fun id ↦ (id, index) :=
        congrArg _ (Tree.map_elementsAll_mapAll (fun _ _ _ ↦ rfl) index none)
    _ = (Tree.labelsAll row.trees).map fun draft ↦ (draft.id, index) := List.map_map

theorem map_place_flatten (outline : Outline Draft) :
    (flatten (outline.map Draft.read)).elements.map Element.place = outline.places := by
  simp only [flatten, indexed, Outline.map, Outline.places, List.map_flatMap, List.zipIdx_map, List.flatMap_map]
  exact List.flatMap_congr fun place _ ↦ map_place_rowElements place.1 place.2

/-! ## The first fault -/

theorem firstFault_eq_none_iff_faultless (elements : List Element) :
    firstFault [] elements = none ↔ Faultless (elements.map Element.place) := by
  rw [firstFault_eq_none_iff, Faultless, List.map_map, List.forall_mem_map]
  simp only [List.not_mem_nil, not_false_eq_true, and_true]
  rfl

/-- The first fault is that of an element behind others without a fault. -/
theorem firstFault_eq_some_iff (elements : List Element) (fault : Fault) :
    firstFault [] elements = some fault ↔
      ∃ before element after, elements = before ++ element :: after ∧ firstFault [] before = none ∧
        firstFault (before.map Element.id).reverse [element] = some fault := by
  constructor
  · intro h
    induction elements using List.reverseRecOn with
    | nil => simp [firstFault] at h
    | append_singleton elements last ih =>
      rw [firstFault_append, List.append_nil] at h
      cases hbefore : firstFault [] elements with
      | none =>
        rw [hbefore, Option.none_or] at h
        exact ⟨elements, last, [], rfl, hbefore, h⟩
      | some earlier =>
        rw [hbefore, Option.some_or] at h
        obtain ⟨before, element, after, rfl, hnone, hfault⟩ := ih (hbefore.trans h)
        exact ⟨before, element, after ++ [last], by simp, hnone, hfault⟩
  · rintro ⟨before, element, after, rfl, hnone, hfault⟩
    rw [firstFault_append, hnone, Option.none_or, List.append_nil, ← List.singleton_append, firstFault_append,
      hfault, Option.some_or]

theorem firstFault_singleton_iff (before : List Element) (element : Element) (fault : Fault) :
    firstFault (before.map Element.id).reverse [element] = some fault ↔
      FaultBehind (before.map Element.place) element.id element.row fault := by
  have hseen : element.id ∈ (before.map Element.place).map Prod.fst ↔
      (before.map Element.id).reverse.contains element.id = true := by
    rw [List.contains_iff_mem, List.mem_reverse, List.map_map]
    rfl
  rw [firstFault, firstFault]
  split
  · rename_i hblank
    rw [isEmpty_trim_iff] at hblank
    constructor
    · intro h
      rw [← Option.some.inj h]
      exact .blank hblank
    · rintro (_ | ⟨hnot, _⟩)
      · rfl
      · exact absurd hblank hnot
  · rename_i hblank
    rw [isEmpty_trim_iff] at hblank
    split
    · rename_i hbefore
      constructor
      · intro h
        rw [← Option.some.inj h]
        exact .repeated hblank (hseen.2 hbefore)
      · rintro (hyes | _)
        · exact absurd hyes hblank
        · rfl
    · rename_i hbefore
      constructor
      · intro h
        contradiction
      · rintro (hyes | ⟨_, hmem⟩)
        · exact absurd hyes hblank
        · exact absurd (hseen.1 hmem) hbefore

theorem firstFault_eq_some_iff_places (elements : List Element) (fault : Fault) :
    firstFault [] elements = some fault ↔
      ∃ before id row after, elements.map Element.place = before ++ (id, row) :: after ∧
        Faultless before ∧ FaultBehind before id row fault := by
  rw [firstFault_eq_some_iff]
  simp only [firstFault_singleton_iff, firstFault_eq_none_iff_faultless]
  constructor
  · rintro ⟨before, element, after, rfl, hnone, hfault⟩
    exact ⟨_, _, _, _, by rw [List.map_append, List.map_cons]; rfl, hnone, hfault⟩
  · rintro ⟨before, id, row, after, hsplit, hnone, hfault⟩
    obtain ⟨first, behind, rfl, rfl, hbehind⟩ := List.map_eq_append_iff.1 hsplit
    obtain ⟨element, others, rfl, hplace, rfl⟩ := List.map_eq_cons_iff.1 hbehind
    obtain ⟨rfl, rfl⟩ := Prod.mk.inj hplace
    exact ⟨first, element, others, rfl, hnone, hfault⟩

/-! ## Accepting and refusing -/

theorem exists_ofDraft_eq_ok_iff (outline : Outline Draft) :
    (∃ listing, ofDraft outline = .ok listing) ↔ Faultless outline.places := by
  simp only [ofDraft_eq_ok_iff, ofOutline_eq_ok_iff, firstFault_eq_none_iff_faultless, map_place_flatten,
    exists_and_left, exists_eq', and_true]

theorem ofDraft_eq_error_iff (outline : Outline Draft) (problem : Problem) :
    ofDraft outline = .error problem ↔
      ∃ fault, firstFault [] (flatten (outline.map Draft.read)).elements = some fault ∧
        problem = .corruptListing fault.reason := by
  rw [ofDraft_eq]
  unfold ofOutline
  cases firstFault [] (flatten (outline.map Draft.read)).elements with
  | none => simp [Except.mapError]
  | some fault => simp [Except.mapError, eq_comm]

theorem Fault.reason_blankId (row : Nat) :
    (blankId row).reason = "element with empty id in row " ++ toString row := by
  have htext : "element with empty id in " ++ "row " = "element with empty id in row " := by decide +kernel
  rw [← htext, String.append_assoc]
  rfl

theorem Fault.reason_repeatedId (id : ElementId) (row : Nat) :
    (repeatedId id row).reason = "duplicate element id `" ++ id ++ "` in row " ++ toString row := by
  have htext : "` in " ++ "row " = "` in row " := by decide +kernel
  change "duplicate element id `" ++ id ++ "` in " ++ ("row " ++ toString row) = _
  simp only [← htext, String.append_assoc]

/-- An outline is accepted exactly if all of its ids are without a fault. Otherwise it is refused for the first
that has one: as empty if the id is blank, and else as a duplicate of an id before it. -/
theorem ofDraft_refuses_first_fault (outline : Outline Draft) :
    ((∃ listing, ofDraft outline = .ok listing) ↔ Faultless outline.places) ∧
    ∀ problem, ofDraft outline = .error problem ↔
      ∃ before id row after, outline.places = before ++ (id, row) :: after ∧ Faultless before ∧
        (IsBlankId id ∧ problem = .corruptListing ("element with empty id in row " ++ toString row) ∨
          ¬IsBlankId id ∧ id ∈ before.map Prod.fst ∧
            problem = .corruptListing ("duplicate element id `" ++ id ++ "` in row " ++ toString row)) := by
  refine ⟨exists_ofDraft_eq_ok_iff outline, fun problem ↦ ?_⟩
  rw [ofDraft_eq_error_iff]
  simp only [firstFault_eq_some_iff_places, map_place_flatten, ← Fault.reason_blankId,
    ← Fault.reason_repeatedId]
  constructor
  · rintro ⟨fault, ⟨before, id, row, after, hplaces, hbefore, hfault⟩, rfl⟩
    refine ⟨before, id, row, after, hplaces, hbefore, ?_⟩
    cases hfault with
    | blank hblank => exact .inl ⟨hblank, rfl⟩
    | repeated hblank hmem => exact .inr ⟨hblank, hmem, rfl⟩
  · rintro ⟨before, id, row, after, hplaces, hbefore, ⟨hblank, rfl⟩ | ⟨hblank, hmem, rfl⟩⟩
    · exact ⟨_, ⟨before, id, row, after, hplaces, hbefore, .blank hblank⟩, rfl⟩
    · exact ⟨_, ⟨before, id, row, after, hplaces, hbefore, .repeated hblank hmem⟩, rfl⟩

/-- Two rows of nested elements, the last two of which have the given ids. -/
def nestedIds (outer inner : ElementId) : Outline Draft :=
  ⟨[⟨none, "", [.node ⟨"", "", "a", ""⟩ [.node ⟨"", "", "b", ""⟩ []]]⟩,
    ⟨none, "", [.node ⟨"", "", "c", ""⟩
      [.node ⟨"", "", outer, ""⟩ [.node ⟨"", "", inner, ""⟩ []]]]⟩]⟩

/-- With a repeated and a blank id, the outer one tells. -/
theorem ofDraft_refuses_first_fault_nested :
    ofDraft (nestedIds "b" " ") = .error (.corruptListing "duplicate element id `b` in row 1") ∧
    ofDraft (nestedIds " " "b") = .error (.corruptListing "element with empty id in row 1") ∧
    ∃ listing, ofDraft (nestedIds "d" "e") = .ok listing := by
  have hbefore : Faultless [("a", 0), ("b", 0), ("c", 1)] := by decide
  refine ⟨?_, ?_, ?_⟩
  · refine ((ofDraft_refuses_first_fault _).2 _).2 ⟨_, "b", 1, [(" ", 1)], rfl, hbefore, .inr ⟨?_, ?_, ?_⟩⟩
    · decide
    · decide
    · decide +kernel
  · refine ((ofDraft_refuses_first_fault _).2 _).2 ⟨_, " ", 1, [("b", 1)], rfl, hbefore, .inl ⟨?_, ?_⟩⟩
    · decide
    · decide +kernel
  · exact (ofDraft_refuses_first_fault _).1.2 (by decide)

end Listing

end DefUse
