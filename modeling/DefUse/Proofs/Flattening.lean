import DefUse.Listing.Reader
import DefUse.Proofs.Paths
import Mathlib.Data.List.Induction
import Mathlib.Data.List.Nodup

/-!
# Flat listings

A listing grows in steps that may stop at a fault. This module says at once what it grows to: the elements of
all forests in written order, the rows with the ids of their elements, and the index of the elements; and at
once where it stops: at the first element with a blank id or with an id that stands before it. The main
statement is that growing comes to the same. Along any forest, and from any growth whose index is that of its
elements, the elements, the index and the ids of the row are extended together. The warnings that come with a
listing are about the elements that repeat an address.
-/

namespace DefUse

namespace Listing

/-! ## The index of elements -/

theorem contains_indexOf_iff (elements : List Element) (id : ElementId) :
    (indexOf elements).contains id = true ↔ id ∈ elements.map Element.id := by
  induction elements using List.reverseRecOn with
  | nil => simp [indexOf]
  | append_singleton elements element ih =>
    rw [indexOf_concat, Std.ExtTreeMap.contains_insert, Bool.or_eq_true, ih, beq_iff_eq,
      Std.LawfulEqCmp.compare_eq_iff_eq, List.map_append, List.mem_append, List.map_singleton,
      List.mem_singleton, or_comm, eq_comm]

/-- The index leads to places where the id stands. -/
theorem map_id_of_getElem?_indexOf {elements : List Element} {id : ElementId} {place : Nat}
    (h : (indexOf elements)[id]? = some place) : elements[place]?.map Element.id = some id := by
  induction elements using List.reverseRecOn with
  | nil => simp [indexOf] at h
  | append_singleton elements element ih =>
    simp only [indexOf_concat, Std.ExtTreeMap.getElem?_insert, Std.LawfulEqCmp.compare_eq_iff_eq] at h
    split at h
    · rename_i hid
      obtain rfl := Option.some.inj h
      simp [hid]
    · obtain ⟨found, hfound, hid⟩ := Option.map_eq_some_iff.1 (ih h)
      have hlt : place < elements.length := (List.getElem?_eq_some_iff.1 hfound).1
      rw [List.getElem?_append_left hlt, hfound, Option.map_some, hid]

/-- If no id stands twice, the index leads from an id to the one place where it stands. -/
theorem getElem?_indexOf_eq_some_iff {elements : List Element} (hnodup : (elements.map Element.id).Nodup)
    {id : ElementId} {place : Nat} :
    (indexOf elements)[id]? = some place ↔ elements[place]?.map Element.id = some id := by
  refine ⟨map_id_of_getElem?_indexOf, fun h ↦ ?_⟩
  rw [← List.getElem?_map] at h
  have hmem := (contains_indexOf_iff elements id).2 (List.mem_of_getElem? h)
  cases hother : (indexOf elements)[id]? with
  | none =>
    rw [Std.ExtTreeMap.contains_eq_isSome_getElem?, hother] at hmem
    contradiction
  | some other =>
    have hsame := map_id_of_getElem?_indexOf hother
    rw [← List.getElem?_map, ← h] at hsame
    have hlt := (List.getElem?_eq_some_iff.1 h).1
    rw [(List.getElem?_inj hlt hnodup).1 hsame.symm]

/-! ## Flat listings and faults -/

def rowElements (row : OutlineRow Label) (place : Nat) : List Element :=
  Tree.elementsAll place none row.trees

def flatRow (row : OutlineRow Label) (place : Nat) : Row :=
  ⟨place, row.line, row.text, (rowElements row place).map Element.id⟩

/-- Rows and elements with the index of the elements. -/
def indexed (rows : List Row) (elements : List Element) : Listing := ⟨rows, elements, indexOf elements, rfl⟩

theorem eq_indexed (listing : Listing) : listing = indexed listing.rows listing.elements := by
  rcases listing with ⟨rows, elements, index, rfl⟩
  rfl

/-- The listing of an outline, whatever its ids are. -/
def flatten (outline : Outline Label) : Listing :=
  indexed (outline.rows.zipIdx.map fun (row, place) ↦ flatRow row place)
    (outline.rows.zipIdx.flatMap fun (row, place) ↦ rowElements row place)

/-- The first element with a blank id, or with an id seen before. -/
def firstFault (seen : List ElementId) : List Element → Option Fault
  | [] => none
  | element :: rest =>
    if (Text.trim element.id.toList).isEmpty then some (.blankId element.row)
    else if seen.contains element.id then some (.repeatedId element.id element.row)
    else firstFault (element.id :: seen) rest

/-- The listing of an outline without a fault. -/
def ofOutline (outline : Outline Label) : Except Fault Listing :=
  match firstFault [] (flatten outline).elements with
  | some fault => .error fault
  | none => .ok (flatten outline)

theorem firstFault_append (seen : List ElementId) (before after : List Element) :
    firstFault seen (before ++ after) =
      (firstFault seen before).or (firstFault ((before.map Element.id).reverse ++ seen) after) := by
  induction before generalizing seen with
  | nil => rfl
  | cons element before ih =>
    rw [List.cons_append, firstFault, firstFault]
    split
    · rfl
    · split
      · rfl
      · rw [ih, List.map_cons, List.reverse_cons, List.append_assoc, List.singleton_append]

/-! ## Growing -/

namespace Growth

/-- The ids that have been taken, the last one first. -/
def seen (growth : Growth) : List ElementId := (growth.listing.elements.map Element.id).reverse

/-- The growth with more elements in the row that is being read. -/
def extend (growth : Growth) (elements : List Element) (warnings : List Warning) : Growth where
  listing := indexed growth.listing.rows (growth.listing.elements ++ elements)
  rowIds := growth.rowIds ++ elements.map Element.id
  warnings := growth.warnings ++ warnings

theorem seen_extend (growth : Growth) (elements : List Element) (warnings : List Warning) :
    (growth.extend elements warnings).seen = (elements.map Element.id).reverse ++ growth.seen := by
  simp [seen, extend, indexed]

theorem extend_extend (growth : Growth) (elements others : List Element) (warnings more : List Warning) :
    (growth.extend elements warnings).extend others more =
      growth.extend (elements ++ others) (warnings ++ more) := by
  simp [extend, indexed]

theorem extend_nil (growth : Growth) : growth.extend [] [] = growth := by
  simp [extend, ← eq_indexed]

theorem add_eq_extend (growth : Growth) (element : Element) (warning : Option Warning) :
    growth.add element warning = growth.extend [element] warning.toList := by
  rw [add, extend, eq_indexed (Listing.mk ..)]
  rfl

/-- Growing stops at the fault, or without a fault comes to a growth with the property. -/
def Ends (fault : Option Fault) (property : Growth → Prop) : Except Refused Growth → Prop
  | .ok grown => fault = none ∧ property grown
  | .error refused => fault = some refused.fault

theorem Ends.bind {fault other : Option Fault} {property final : Growth → Prop}
    {first : Except Refused Growth} {next : Growth → Except Refused Growth} (hfirst : Ends fault property first)
    (hnext : ∀ grown, property grown → Ends other final (next grown)) :
    Ends (fault.or other) final (first >>= next) := by
  cases first with
  | error refused =>
    obtain rfl : fault = some refused.fault := hfirst
    rfl
  | ok grown =>
    obtain ⟨rfl, hgrown⟩ := hfirst
    exact hnext grown hgrown

/-- Growing takes in elements, unless one of them is at fault. -/
def TakesIn (growth : Growth) (elements : List Element) (warnings : List Warning) :
    Except Refused Growth → Prop :=
  Ends (firstFault growth.seen elements) (· = growth.extend elements warnings)

theorem TakesIn.bind {growth : Growth} {elements others : List Element} {warnings more : List Warning}
    {first : Except Refused Growth} {next : Growth → Except Refused Growth}
    (hfirst : growth.TakesIn elements warnings first)
    (hnext : (growth.extend elements warnings).TakesIn others more (next (growth.extend elements warnings))) :
    growth.TakesIn (elements ++ others) (warnings ++ more) (first >>= next) := by
  unfold TakesIn at hnext ⊢
  rw [seen_extend, extend_extend] at hnext
  rw [firstFault_append]
  refine Ends.bind hfirst ?_
  rintro _ rfl
  exact hnext

/-- One step. -/
theorem takesIn_push (growth : Growth) (row : Nat) (parent : Option ElementId)
    (draft : Draft) :
    growth.TakesIn [draft.read.element row parent] draft.warning?.toList (growth.push row parent draft) := by
  have hseen : growth.listing.index.contains draft.id = growth.seen.contains draft.id := by
    rw [Bool.eq_iff_iff, growth.listing.index_eq, contains_indexOf_iff, List.contains_iff_mem, seen, List.mem_reverse]
  unfold push TakesIn
  rw [hseen, firstFault, firstFault, add_eq_extend]
  change Ends (if (Text.trim draft.id.toList).isEmpty then some (.blankId row)
    else if growth.seen.contains draft.id then some (.repeatedId draft.id row) else none) _ _
  split
  · rfl
  · split
    · rfl
    · exact ⟨rfl, rfl⟩

/-- A whole forest: the elements, the index and the ids of the row are extended together. -/
theorem takesIn_pushForest (growth : Growth) (row : Nat) (parent : Option ElementId)
    (trees : List (Tree Draft)) :
    growth.TakesIn (Tree.elementsAll row parent (Tree.mapAll Draft.read trees))
      ((Tree.labelsAll trees).filterMap Draft.warning?) (growth.pushForest row parent trees) := by
  induction trees using Tree.forestInduction generalizing growth parent with
  | nil => exact ⟨rfl, growth.extend_nil.symm⟩
  | node draft children rest ihchildren ihrest =>
    have hpush : growth.pushForest row parent (.node draft children :: rest) =
        growth.push row parent draft >>= fun grown ↦
          grown.pushForest row (some draft.id) children >>= fun grown ↦ grown.pushForest row parent rest :=
      bind_assoc ..
    have hwarnings : (Tree.labelsAll (.node draft children :: rest)).filterMap Draft.warning? =
        draft.warning?.toList ++ ((Tree.labelsAll children).filterMap Draft.warning? ++
          (Tree.labelsAll rest).filterMap Draft.warning?) := by
      rw [Tree.labelsAll_node, List.filterMap_cons, List.filterMap_append]
      cases draft.warning? <;> rfl
    rw [hpush, hwarnings]
    exact (growth.takesIn_push row parent draft).bind
      ((ihchildren _ (some draft.id)).bind (ihrest _ parent))

/-- More rows have been finished, with their elements and warnings. -/
structure Continues (growth : Growth) (rows : List Row) (elements : List Element) (warnings : List Warning)
    (grown : Growth) : Prop where
  listing_eq : grown.listing = indexed (growth.listing.rows ++ rows) (growth.listing.elements ++ elements)
  warnings_eq : grown.warnings = growth.warnings ++ warnings

section Continues

variable {growth grown last : Growth} {rows more : List Row} {elements others : List Element}
  {warnings further : List Warning}

theorem continues_nil (growth : Growth) : growth.Continues [] [] [] growth where
  listing_eq := by simpa using growth.listing.eq_indexed
  warnings_eq := by simp

theorem Continues.seen_eq (h : growth.Continues rows elements warnings grown) :
    grown.seen = (elements.map Element.id).reverse ++ growth.seen := by
  unfold seen
  rw [h.listing_eq]
  simp [Listing.indexed]

theorem Continues.trans (h : growth.Continues rows elements warnings grown)
    (hlast : grown.Continues more others further last) :
    growth.Continues (rows ++ more) (elements ++ others) (warnings ++ further) last where
  listing_eq := by
    rw [hlast.listing_eq, h.listing_eq]
    simp [Listing.indexed]
  warnings_eq := by rw [hlast.warnings_eq, h.warnings_eq, List.append_assoc]

end Continues

/-- A row is finished with the ids of the elements that have been taken in since the last one. -/
theorem ends_pushRow (growth : Growth) (row : OutlineRow Draft) (place : Nat) :
    Ends (firstFault growth.seen (rowElements (row.map Draft.read) place))
      (growth.Continues [flatRow (row.map Draft.read) place] (rowElements (row.map Draft.read) place)
        ((Tree.labelsAll row.trees).filterMap Draft.warning?))
      (growth.pushRow row place) := by
  rw [← Option.or_none (o := firstFault growth.seen _)]
  refine Ends.bind (takesIn_pushForest _ place none row.trees) ?_
  rintro _ rfl
  exact ⟨rfl, rfl, rfl⟩

theorem Ends.mono {fault : Option Fault} {property weaker : Growth → Prop} {result : Except Refused Growth}
    (h : Ends fault property result) (hweaker : ∀ grown, property grown → weaker grown) :
    Ends fault weaker result := by
  cases result with
  | error refused => exact h
  | ok grown => exact ⟨h.1, hweaker grown h.2⟩

theorem ends_foldlM_pushRow (growth : Growth)
    (rows : List (OutlineRow Draft × Nat)) :
    Ends (firstFault growth.seen (rows.flatMap fun (row, place) ↦ rowElements (row.map Draft.read) place))
      (growth.Continues (rows.map fun (row, place) ↦ flatRow (row.map Draft.read) place)
        (rows.flatMap fun (row, place) ↦ rowElements (row.map Draft.read) place)
        (rows.flatMap fun (row, _) ↦ (Tree.labelsAll row.trees).filterMap Draft.warning?))
      (rows.foldlM (fun growth (row, place) ↦ growth.pushRow row place) growth) := by
  induction rows generalizing growth with
  | nil => exact ⟨rfl, growth.continues_nil⟩
  | cons first rest ih =>
    obtain ⟨row, place⟩ := first
    rw [List.foldlM_cons, List.flatMap_cons, firstFault_append]
    refine Ends.bind (growth.ends_pushRow row place) fun grown hgrown ↦ ?_
    rw [← hgrown.seen_eq]
    exact (ih grown).mono fun last hlast ↦ hgrown.trans hlast

end Growth

/-- A listing grows to the flat listing of the outline, or stops at its first fault. -/
theorem ends_ofOutline (outline : Outline Draft) :
    Growth.Ends (firstFault [] (flatten (outline.map Draft.read)).elements)
      (fun grown ↦ grown.listing = flatten (outline.map Draft.read) ∧
        grown.warnings = outline.labels.filterMap Draft.warning?)
      (Growth.ofOutline outline) := by
  have hflat : flatten (outline.map Draft.read) = indexed
      (outline.rows.zipIdx.map fun (row, place) ↦ flatRow (row.map Draft.read) place)
      (outline.rows.zipIdx.flatMap fun (row, place) ↦ rowElements (row.map Draft.read) place) := by
    simp only [flatten, Outline.map, List.zipIdx_map, List.map_map, List.flatMap_map]
    rfl
  have hlabels : outline.labels.filterMap Draft.warning? =
      outline.rows.zipIdx.flatMap fun (row, _) ↦ (Tree.labelsAll row.trees).filterMap Draft.warning? := by
    rw [Outline.labels, List.filterMap_flatMap]
    conv_lhs => rw [← List.zipIdx_map_fst 0 outline.rows, List.flatMap_map]
  rw [hflat, hlabels]
  exact (Growth.empty.ends_foldlM_pushRow outline.rows.zipIdx).mono fun _ h ↦ ⟨h.listing_eq, h.warnings_eq⟩

/-- What is read is the flat listing of an outline without a fault, and else the reason of the first. -/
theorem ofDraft_eq (outline : Outline Draft) :
    ofDraft outline =
      (ofOutline (outline.map Draft.read)).mapError fun fault ↦ .corruptListing fault.reason := by
  have hends := ends_ofOutline outline
  unfold ofDraft ofOutline
  cases hgrown : Growth.ofOutline outline with
  | error refused =>
    rw [hgrown] at hends
    have hfault : firstFault [] (flatten (outline.map Draft.read)).elements = some refused.fault := hends
    rw [hfault]
    rfl
  | ok growth =>
    rw [hgrown] at hends
    obtain ⟨hfault, hlisting, -⟩ := hends
    rw [hfault]
    exact congrArg Except.ok hlisting

/-! ## Accepted outlines -/

/-- What does not depend on the places of elements can be read off the outline. -/
theorem map_elements_flatten {β : Type} {f : Element → β} {g : Draft → β}
    (h : ∀ draft row parent, f ((Draft.read draft).element row parent) = g draft) (outline : Outline Draft) :
    (flatten (outline.map Draft.read)).elements.map f = outline.labels.map g := by
  have hrow (place : OutlineRow Draft × Nat) :
      (rowElements (place.1.map Draft.read) place.2).map f = (Tree.labelsAll place.1.trees).map g :=
    Tree.map_elementsAll_mapAll h place.2 none
  simp only [flatten, indexed, Outline.map, Outline.labels, List.map_flatMap, List.zipIdx_map, List.flatMap_map]
  calc outline.rows.zipIdx.flatMap (fun place ↦ (rowElements (place.1.map Draft.read) place.2).map f)
      = outline.rows.zipIdx.flatMap (fun place ↦ (Tree.labelsAll place.1.trees).map g) := by
        simp only [hrow]
    _ = (outline.rows.zipIdx.map Prod.fst).flatMap (fun row ↦ (Tree.labelsAll row.trees).map g) := by
        rw [List.flatMap_map]
    _ = outline.rows.flatMap (fun row ↦ (Tree.labelsAll row.trees).map g) := by
        rw [List.zipIdx_map_fst]

theorem repeatsAddress_iff {addresses : List Address} : repeatsAddress addresses = true ↔ ¬addresses.Nodup := by
  have hmem (address : Address) (place : Nat) :
      address ∈ addresses.take place ↔ ∃ earlier < place, addresses[earlier]? = some address := by
    simp only [List.mem_iff_getElem?, List.getElem?_take, Option.ite_none_right_eq_some]
  unfold repeatsAddress
  simp only [List.any_eq_true, List.contains_iff_mem, hmem, Prod.exists, List.mem_zipIdx_iff_getElem?,
    List.nodup_iff_getElem?_ne_getElem?]
  push Not
  constructor
  · rintro ⟨address, place, hplace, earlier, hlt, hearlier⟩
    exact ⟨earlier, place, hlt, (List.getElem?_eq_some_iff.1 hplace).1, hearlier.trans hplace.symm⟩
  · rintro ⟨earlier, place, hlt, hplace, hsame⟩
    exact ⟨addresses[place], place, List.getElem?_eq_getElem hplace, earlier, hlt,
      hsame.trans (List.getElem?_eq_getElem hplace)⟩

section Accepted

variable {outline : Outline Draft} {listing : Listing} (h : ofDraft outline = .ok listing)

include h

theorem exists_ofOutline_eq_ok : ∃ growth, Growth.ofOutline outline = .ok growth ∧ growth.listing = listing := by
  unfold ofDraft at h
  split at h
  · rename_i growth hgrowth
    exact ⟨growth, hgrowth, Except.ok.inj h⟩
  · contradiction

theorem eq_flatten_of_ofDraft : listing = flatten (outline.map Draft.read) := by
  obtain ⟨growth, hgrowth, rfl⟩ := exists_ofOutline_eq_ok h
  have hends := ends_ofOutline outline
  rw [hgrowth] at hends
  exact hends.2.1

/-- The warnings are about the elements that repeat an address, in order. -/
theorem map_id_warningsOfDraft :
    (warningsOfDraft outline).map Warning.id =
      (listing.elements.filter fun element ↦ ¬element.addresses.Nodup).map Element.id := by
  obtain ⟨growth, hgrowth, rfl⟩ := exists_ofOutline_eq_ok h
  have hends := ends_ofOutline outline
  rw [hgrowth] at hends
  obtain ⟨-, hlisting, hwarnings⟩ := hends
  let warned (element : Element) : Option ElementId :=
    if element.addresses.Nodup then none else some element.id
  have hwarned (draft : Draft) (row : Nat) (parent : Option ElementId) :
      warned (draft.read.element row parent) = draft.warning?.map Warning.id := by
    change (if draft.read.addresses.Nodup then none else some draft.id) = _
    unfold Draft.warning?
    by_cases hnodup : draft.read.addresses.Nodup <;> simp [repeatsAddress_iff, hnodup]
  have hsame := congrArg (List.filterMap id) (map_elements_flatten hwarned outline)
  rw [List.filterMap_map, List.filterMap_map, Function.id_comp, Function.id_comp, ← hlisting] at hsame
  calc (warningsOfDraft outline).map Warning.id
      = outline.labels.filterMap fun draft ↦ draft.warning?.map Warning.id := by
        rw [← List.map_filterMap, ← hwarnings, warningsOfDraft, hgrowth]
    _ = growth.listing.elements.filterMap warned := hsame.symm
    _ = (growth.listing.elements.filter fun element ↦ ¬element.addresses.Nodup).map Element.id := by
        rw [← List.filterMap_eq_map, List.filterMap_filter]
        refine congrArg (List.filterMap · _) (funext fun element ↦ ?_)
        by_cases hnodup : element.addresses.Nodup <;> simp [warned, hnodup]

end Accepted

end Listing

end DefUse
