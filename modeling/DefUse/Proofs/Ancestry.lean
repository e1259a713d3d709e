import DefUse.Proofs.AddressSets
import DefUse.Proofs.Origin
import DefUse.Proofs.Paths

/-!
# The way up to the root

An outline has the elements of a row as a forest, and a listing has them in a row, each with the id of the
element around it. To look for the nearest element with a role is a loop that goes from id to id in the
listing. The main statement is that in every outline that is accepted this loop comes to an end, and that it
finds the first node with a tag of the pair on the way from the origin up to the root of its tree.
-/

namespace DefUse

/-- A selection is the nearest element with its addresses, each once. -/
theorem Listing.resolve_eq_some_iff {listing : Listing} {pair : TagPair} {origin : ElementId}
    {selection : Selection} :
    listing.resolve pair origin = some selection ↔
      listing.nearest pair origin = some selection.element ∧
        selection.addresses.addresses = selection.element.addresses.eraseDups := by
  rw [resolve, Option.map_eq_some_iff, ← firstOccurrences_eq_eraseDups]
  constructor
  · rintro ⟨element, hnearest, rfl⟩
    exact ⟨hnearest, rfl⟩
  · rintro ⟨hnearest, haddresses⟩
    refine ⟨selection.element, hnearest, ?_⟩
    rcases selection with ⟨element, ⟨addresses, hnodup⟩⟩
    obtain rfl : addresses = firstOccurrences element.addresses := haddresses
    rfl

/-! ## Nodes of an outline -/

/-- A class text of the node has one of the tags of the pair. -/
def Draft.Bears (pair : TagPair) (draft : Draft) : Prop :=
  pair.definition ∈ Tag.ofClass draft.classes ∨ pair.use ∈ Tag.ofClass draft.classes

instance (pair : TagPair) (draft : Draft) : Decidable (draft.Bears pair) :=
  inferInstanceAs (Decidable (_ ∨ _))

/-- The element of a node in a row, inside the first of the nodes above it. -/
def Draft.elementIn (draft : Draft) (row : Nat) (above : List Draft) : Element :=
  draft.read.element row (above.head?.map Draft.id)

namespace Outline

/-- The way from the node with an id up to the root of its tree, which stands in the row with the index. -/
def IsPathOf (outline : Outline Draft) (id : ElementId) (row : Nat) (path : List Draft) : Prop :=
  (∃ source, outline.rows[row]? = some source ∧ Tree.IsPath source.trees path) ∧
    path.head?.map Draft.id = some id

theorem mem_labels_of_isPath {outline : Outline Draft} {row : OutlineRow Draft} {index : Nat}
    (hrow : outline.rows[index]? = some row) {draft : Draft} {above : List Draft}
    (hpath : Tree.IsPath row.trees (draft :: above)) : draft ∈ outline.labels :=
  List.mem_flatMap.2 ⟨row, List.mem_of_getElem? hrow, Tree.mem_labelsAll_iff.2 ⟨above, hpath⟩⟩

/-- The nodes of an outline are those from which a way leads up. -/
theorem mem_labels_iff_isPathOf {outline : Outline Draft} {id : ElementId} :
    id ∈ outline.labels.map Draft.id ↔ ∃ row path, outline.IsPathOf id row path := by
  constructor
  · intro hid
    obtain ⟨draft, hdraft, rfl⟩ := List.mem_map.1 hid
    obtain ⟨row, hrow, hlabel⟩ := List.mem_flatMap.1 hdraft
    obtain ⟨above, hpath⟩ := Tree.mem_labelsAll_iff.1 hlabel
    obtain ⟨index, hindex⟩ := List.mem_iff_getElem?.1 hrow
    exact ⟨index, draft :: above, ⟨row, hindex, hpath⟩, rfl⟩
  · rintro ⟨index, path, ⟨row, hrow, hpath⟩, hid⟩
    obtain ⟨draft, hdraft, rfl⟩ := Option.map_eq_some_iff.1 hid
    obtain ⟨above, rfl⟩ := List.head?_eq_some_iff.1 hdraft
    exact List.mem_map_of_mem (mem_labels_of_isPath hrow hpath)

end Outline

namespace Listing

/-- The element around an element. -/
def around? (listing : Listing) (element : Element) : Option Element :=
  element.parent.bind listing.element?

/-- The loop that looks for the nearest element with a role. It stops at an element that has one, goes on at
the element around an element that has none, and leaves where there is nothing around. -/
inductive Climbs (listing : Listing) (pair : TagPair) : Option Element → Option Element → Prop where
  | leave : Climbs listing pair none none
  | stop {element : Element} (hrole : (element.roleIn pair).isSome = true) :
      Climbs listing pair (some element) (some element)
  | turn {element : Element} {result : Option Element} (hrole : ¬(element.roleIn pair).isSome = true)
      (h : Climbs listing pair (listing.around? element) result) : Climbs listing pair (some element) result

section Climb

variable {listing : Listing} {pair : TagPair} {origin : ElementId}

/-- In a well-formed listing the search from the end of the listing goes from an element to the one around
it. -/
theorem nearest_eq_of_element? (hlisting : listing.WellFormed) {element : Element}
    (h : listing.element? origin = some element) :
    listing.nearest pair origin =
      if (element.roleIn pair).isSome then some element else element.parent.bind (listing.nearest pair) := by
  obtain ⟨hmem, hid⟩ := (hlisting.element?_eq_some_iff _ _).1 h
  have hsame {other : Element} (hother : other ∈ listing.elements) (hotherId : other.id = origin) :
      other = element :=
    List.inj_on_of_nodup_map hlisting.ids_nodup hother hmem (hotherId.trans hid.symm)
  by_cases hrole : (element.roleIn pair).isSome = true
  · rw [if_pos hrole, nearest_eq_some_iff hlisting, ← hid]
    exact .here hmem ((element.roleIn_isSome_iff pair).1 hrole)
  · have htags := not_or.1 (mt (element.roleIn_isSome_iff pair).2 hrole)
    rw [if_neg hrole]
    refine Option.ext fun found ↦ ?_
    rw [Option.bind_eq_some_iff]
    simp only [nearest_eq_some_iff hlisting]
    constructor
    · intro hfound
      cases hfound with
      | here hfound htag =>
        rw [hsame hfound rfl, ← element.roleIn_isSome_iff pair] at htag
        exact absurd htag hrole
      | around hinner _ _ hparent hfound =>
        rw [hsame hinner rfl] at hparent
        exact ⟨_, hparent, hfound⟩
    · rintro ⟨parent, hparent, hfound⟩
      rw [← hid]
      exact .around hmem htags.1 htags.2 hparent hfound

theorem nearest_eq_none_of_element? (hlisting : listing.WellFormed) (h : listing.element? origin = none) :
    listing.nearest pair origin = none := by
  rw [Option.eq_none_iff_forall_ne_some]
  intro element helement
  exact (hlisting.element?_eq_none_iff origin).1 h ((nearest_eq_some_iff hlisting).1 helement).origin_mem

/-- What the loop ends with is what the search finds. -/
theorem Climbs.nearest_eq (hlisting : listing.WellFormed) {current result : Option Element}
    (h : listing.Climbs pair current result) (horigin : listing.element? origin = current) :
    listing.nearest pair origin = result := by
  induction h generalizing origin with
  | leave => exact nearest_eq_none_of_element? hlisting horigin
  | stop hrole => rw [nearest_eq_of_element? hlisting horigin, if_pos hrole]
  | @turn element result hrole h ih =>
    rw [nearest_eq_of_element? hlisting horigin, if_neg hrole]
    cases hparent : element.parent with
    | none =>
      rw [around?, hparent] at h
      cases h
      rfl
    | some parent => exact ih (by rw [around?, hparent, Option.bind_some])

end Climb

/-! ## Accepted outlines -/

section Accepted

variable {outline : Outline Draft} {listing : Listing} (h : ofDraft outline = .ok listing)

include h

theorem map_id_elements_of_ofDraft :
    listing.elements.map Element.id = outline.labels.map Draft.id := by
  rw [eq_flatten_of_ofDraft h]
  exact map_elements_flatten (fun _ _ _ ↦ rfl) outline

/-- The elements of the listing are the nodes of the outline, each inside the node around it. -/
theorem mem_elements_iff_isPath {element : Element} :
    element ∈ listing.elements ↔ ∃ row, outline.rows[element.row]? = some row ∧ ∃ draft above,
      Tree.IsPath row.trees (draft :: above) ∧ element = draft.elementIn element.row above := by
  rw [eq_flatten_of_ofDraft h, mem_elements_flatten]
  simp only [Outline.map, List.getElem?_map, Option.map_eq_some_iff, exists_exists_and_eq_and, rowElements,
    OutlineRow.map, Tree.mem_elementsAll_mapAll_iff, Option.or_none]
  rfl

section Path

variable {row : OutlineRow Draft} {index : Nat} (hrow : outline.rows[index]? = some row) {pair : TagPair}

include hrow

/-- The id of a node finds the element of the node. -/
theorem element?_of_isPath {draft : Draft} {above : List Draft}
    (hpath : Tree.IsPath row.trees (draft :: above)) :
    listing.element? draft.id = some (draft.elementIn index above) := by
  have hlisting : listing.WellFormed := .ofOutline (ofDraft_eq_ok_iff.1 h)
  refine (hlisting.element?_eq_some_iff _ _).2 ⟨?_, rfl⟩
  exact (mem_elements_iff_isPath h).2 ⟨row, hrow, draft, above, hpath, rfl⟩

/-- The loop goes on from a node without a tag of the pair to the node above it. -/
theorem climbs_of_not_bears {draft : Draft} {above : List Draft} {result : Option Element}
    (hpath : Tree.IsPath row.trees (draft :: above)) (hdraft : ¬draft.Bears pair)
    (habove : listing.Climbs pair ((above.head?.map Draft.id).bind listing.element?) result) :
    listing.Climbs pair (listing.element? draft.id) result := by
  have hrole := mt ((draft.elementIn index above).roleIn_isSome_iff pair).1 hdraft
  rw [element?_of_isPath h hrow hpath]
  exact .turn hrole habove

/-- From the start of a way the loop gets to the first node with a tag of the pair. -/
theorem climbs_of_first_bears {below above : List Draft} {draft : Draft}
    (hpath : Tree.IsPath row.trees (below ++ draft :: above)) (hbelow : ∀ lower ∈ below, ¬lower.Bears pair)
    (hdraft : draft.Bears pair) :
    listing.Climbs pair (((below ++ draft :: above).head?.map Draft.id).bind listing.element?)
      (some (draft.elementIn index above)) := by
  induction below with
  | nil =>
    have hrole := ((draft.elementIn index above).roleIn_isSome_iff pair).2 hdraft
    have hstart : listing.element? draft.id = some (draft.elementIn index above) :=
      element?_of_isPath h hrow hpath
    rw [List.nil_append, List.head?_cons, Option.map_some, Option.bind_some, hstart]
    exact .stop hrole
  | cons lower below ih =>
    rw [List.forall_mem_cons] at hbelow
    exact climbs_of_not_bears h hrow hpath hbelow.1 (ih (hpath.tail (by simp)) hbelow.2)

/-- If no node on a way has a tag of the pair, the loop leaves the tree at its root. -/
theorem climbs_none_of_isPath {path : List Draft} (hpath : Tree.IsPath row.trees path)
    (hbears : ∀ draft ∈ path, ¬draft.Bears pair) :
    listing.Climbs pair ((path.head?.map Draft.id).bind listing.element?) none := by
  induction path with
  | nil => exact .leave
  | cons draft above ih =>
    rw [List.forall_mem_cons] at hbears
    refine climbs_of_not_bears h hrow hpath hbears.1 ?_
    by_cases habove : above = []
    · subst habove
      exact .leave
    · exact ih (hpath.tail habove) hbears.2

end Path

theorem nodup_ids_of_ofDraft : (outline.labels.map Draft.id).Nodup := by
  rw [← map_id_elements_of_ofDraft h]
  exact (WellFormed.ofOutline (ofDraft_eq_ok_iff.1 h)).ids_nodup

/-- No two nodes of an accepted outline have the same id, so a node has one way up. -/
theorem isPathOf_unique {id : ElementId} {first second : Nat} {path other : List Draft}
    (hpath : outline.IsPathOf id first path) (hother : outline.IsPathOf id second other) :
    first = second ∧ path = other := by
  induction path generalizing id other with
  | nil => exact absurd hpath.2 (by simp)
  | cons draft above ih =>
    cases other with
    | nil => exact absurd hother.2 (by simp)
    | cons twin beyond =>
      have hid : draft.id = twin.id := Option.some.inj (hpath.2.trans hother.2.symm)
      obtain ⟨⟨row, hrow, htree⟩, _⟩ := hpath
      obtain ⟨⟨otherRow, hotherRow, hotherTree⟩, _⟩ := hother
      have hdraft : draft = twin :=
        List.inj_on_of_nodup_map (nodup_ids_of_ofDraft h) (Outline.mem_labels_of_isPath hrow htree)
          (Outline.mem_labels_of_isPath hotherRow hotherTree) hid
      -- Both ways start at one element, so they agree in the row and in the id above.
      have hsame : draft.elementIn first above = twin.elementIn second beyond := by
        have hfound := element?_of_isPath h hrow htree
        rw [hid, element?_of_isPath h hotherRow hotherTree] at hfound
        exact (Option.some.inj hfound).symm
      have hindex : first = second := congrArg Element.row hsame
      have hparent : above.head?.map Draft.id = beyond.head?.map Draft.id := congrArg Element.parent hsame
      refine ⟨hindex, List.cons_eq_cons.2 ⟨hdraft, ?_⟩⟩
      cases above with
      | nil => exact (List.head?_eq_none_iff.1 (Option.map_eq_none_iff.1 hparent.symm)).symm
      | cons next above =>
        have hbeyond : beyond ≠ [] := by
          rintro rfl
          simp at hparent
        exact (ih ⟨⟨row, hrow, htree.tail (by simp)⟩, rfl⟩
          ⟨⟨otherRow, hotherRow, hotherTree.tail hbeyond⟩, hparent.symm⟩).2

section Origin

variable {pair : TagPair} {origin : ElementId}

theorem climbs_of_isPathOf_of_bears {row : Nat} {below above : List Draft} {draft : Draft}
    (hpath : outline.IsPathOf origin row (below ++ draft :: above))
    (hbelow : ∀ lower ∈ below, ¬lower.Bears pair) (hdraft : draft.Bears pair) :
    listing.Climbs pair (listing.element? origin) (some (draft.elementIn row above)) := by
  obtain ⟨⟨source, hrow, htree⟩, hid⟩ := hpath
  have hclimbs := climbs_of_first_bears h hrow htree hbelow hdraft
  rwa [hid, Option.bind_some] at hclimbs

theorem climbs_of_isPathOf_of_not_bears {row : Nat} {path : List Draft}
    (hpath : outline.IsPathOf origin row path) (hbears : ∀ draft ∈ path, ¬draft.Bears pair) :
    listing.Climbs pair (listing.element? origin) none := by
  obtain ⟨⟨source, hrow, htree⟩, hid⟩ := hpath
  have hclimbs := climbs_none_of_isPath h hrow htree hbears
  rwa [hid, Option.bind_some] at hclimbs

theorem climbs_of_not_mem_labels (hid : origin ∉ outline.labels.map Draft.id) :
    listing.Climbs pair (listing.element? origin) none := by
  have hnone : listing.element? origin = none := by
    rwa [element?_eq_none_iff_not_mem, map_id_elements_of_ofDraft h]
  rw [hnone]
  exact .leave

end Origin

end Accepted

/-- A way has a first node with a tag of the pair, or no such node at all. -/
theorem first_bears_or_not (pair : TagPair) (path : List Draft) :
    (∃ below draft above, path = below ++ draft :: above ∧ (∀ lower ∈ below, ¬lower.Bears pair) ∧
      draft.Bears pair) ∨ ∀ draft ∈ path, ¬draft.Bears pair := by
  cases hfirst : path.find? fun draft ↦ draft.Bears pair with
  | none => exact .inr (by simpa using hfirst)
  | some draft =>
    obtain ⟨hdraft, below, above, rfl, hbelow⟩ := List.find?_eq_some_iff_append.1 hfirst
    exact .inl ⟨below, draft, above, rfl, by simpa using hbelow, by simpa using hdraft⟩

/-! ## What is found from an origin -/

section Found

variable {outline : Outline Draft} {listing : Listing} (h : ofDraft outline = .ok listing) {pair : TagPair}
  {origin : ElementId}

include h

/-- From every origin the loop ends: outside the outline it leaves at once, and on a way up it ends at the first
node with a tag of the pair or behind the root. -/
theorem climbs_cases (pair : TagPair) (origin : ElementId) :
    (listing.Climbs pair (listing.element? origin) none ∧
      (origin ∉ outline.labels.map Draft.id ∨
        ∃ row path, outline.IsPathOf origin row path ∧ ∀ draft ∈ path, ¬draft.Bears pair)) ∨
    ∃ row below draft above, outline.IsPathOf origin row (below ++ draft :: above) ∧
      (∀ lower ∈ below, ¬lower.Bears pair) ∧ draft.Bears pair ∧
      listing.Climbs pair (listing.element? origin) (some (draft.elementIn row above)) := by
  by_cases hid : origin ∈ outline.labels.map Draft.id
  · obtain ⟨row, path, hpath⟩ := Outline.mem_labels_iff_isPathOf.1 hid
    rcases first_bears_or_not pair path with ⟨below, draft, above, rfl, hbelow, hdraft⟩ | hbears
    · exact .inr ⟨row, below, draft, above, hpath, hbelow, hdraft,
        climbs_of_isPathOf_of_bears h hpath hbelow hdraft⟩
    · exact .inl ⟨climbs_of_isPathOf_of_not_bears h hpath hbears, .inr ⟨row, path, hpath, hbears⟩⟩
  · exact .inl ⟨climbs_of_not_mem_labels h hid, .inl hid⟩

theorem nearest_eq_of_climbs {result : Option Element}
    (hclimbs : listing.Climbs pair (listing.element? origin) result) : listing.nearest pair origin = result :=
  hclimbs.nearest_eq (.ofOutline (ofDraft_eq_ok_iff.1 h)) rfl

theorem climbs_iff_eq_nearest (result : Option Element) :
    listing.Climbs pair (listing.element? origin) result ↔ result = listing.nearest pair origin := by
  constructor
  · intro hclimbs
    exact (nearest_eq_of_climbs h hclimbs).symm
  · rintro rfl
    rcases climbs_cases h pair origin with ⟨hclimbs, _⟩ | ⟨_, _, _, _, _, _, _, hclimbs⟩
    · rwa [nearest_eq_of_climbs h hclimbs]
    · rwa [nearest_eq_of_climbs h hclimbs]

theorem nearest_eq_some_iff_isPathOf (element : Element) :
    listing.nearest pair origin = some element ↔
      ∃ row below draft above, outline.IsPathOf origin row (below ++ draft :: above) ∧
        (∀ lower ∈ below, ¬lower.Bears pair) ∧ draft.Bears pair ∧ element = draft.elementIn row above := by
  constructor
  · intro helement
    rcases climbs_cases h pair origin with
      ⟨hclimbs, _⟩ | ⟨row, below, draft, above, hpath, hbelow, hdraft, hclimbs⟩
    · rw [nearest_eq_of_climbs h hclimbs] at helement
      contradiction
    · rw [nearest_eq_of_climbs h hclimbs] at helement
      exact ⟨row, below, draft, above, hpath, hbelow, hdraft, (Option.some.inj helement).symm⟩
  · rintro ⟨row, below, draft, above, hpath, hbelow, hdraft, rfl⟩
    exact nearest_eq_of_climbs h (climbs_of_isPathOf_of_bears h hpath hbelow hdraft)

theorem nearest_eq_none_iff_isPathOf :
    listing.nearest pair origin = none ↔
      origin ∉ outline.labels.map Draft.id ∨
        ∃ row path, outline.IsPathOf origin row path ∧ ∀ draft ∈ path, ¬draft.Bears pair := by
  constructor
  · intro hnone
    rcases climbs_cases h pair origin with ⟨_, hbears⟩ | ⟨_, _, _, _, _, _, _, hclimbs⟩
    · exact hbears
    · rw [nearest_eq_of_climbs h hclimbs] at hnone
      contradiction
  · rintro (hid | ⟨row, path, hpath, hbears⟩)
    · exact nearest_eq_of_climbs h (climbs_of_not_mem_labels h hid)
    · exact nearest_eq_of_climbs h (climbs_of_isPathOf_of_not_bears h hpath hbears)

/-- A way does not leave its row. -/
theorem row_eq_of_nearest {element : Element} (helement : listing.nearest pair origin = some element) :
    ∃ start, listing.element? origin = some start ∧ start.row = element.row := by
  obtain ⟨index, below, draft, above, ⟨⟨row, hrow, hpath⟩, hid⟩, _, _, rfl⟩ :=
    (nearest_eq_some_iff_isPathOf h element).1 helement
  obtain ⟨first, hfirst, rfl⟩ := Option.map_eq_some_iff.1 hid
  obtain ⟨rest, hrest⟩ := List.head?_eq_some_iff.1 hfirst
  rw [hrest] at hpath
  exact ⟨first.elementIn index rest, element?_of_isPath h hrow hpath, rfl⟩

theorem existsUnique_isPathOf (hid : origin ∈ outline.labels.map Draft.id) :
    ∃! place : Nat × List Draft, outline.IsPathOf origin place.1 place.2 := by
  obtain ⟨row, path, hpath⟩ := Outline.mem_labels_iff_isPathOf.1 hid
  refine ⟨(row, path), hpath, fun other hother ↦ ?_⟩
  exact Prod.ext_iff.2 (isPathOf_unique h hother hpath)

end Found

/-- What is found from an origin, told by the way from its node up to the root. -/
structure ResolvesAlongPath (outline : Outline Draft) (listing : Listing) (pair : TagPair)
    (origin : ElementId) : Prop where
  /-- The loop ends, and with one result. -/
  climbs_iff : ∀ result,
    listing.Climbs pair (listing.element? origin) result ↔ result = listing.nearest pair origin
  existsUnique_path : origin ∈ outline.labels.map Draft.id →
    ∃! place : Nat × List Draft, outline.IsPathOf origin place.1 place.2
  /-- The first node with a tag of the pair is found. -/
  nearest_eq_some_iff : ∀ element, listing.nearest pair origin = some element ↔
    ∃ row below draft above, outline.IsPathOf origin row (below ++ draft :: above) ∧
      (∀ lower ∈ below, ¬lower.Bears pair) ∧ draft.Bears pair ∧ element = draft.elementIn row above
  nearest_eq_none_iff : listing.nearest pair origin = none ↔
    origin ∉ outline.labels.map Draft.id ∨
      ∃ row path, outline.IsPathOf origin row path ∧ ∀ draft ∈ path, ¬draft.Bears pair
  row_eq : ∀ element, listing.nearest pair origin = some element →
    ∃ start, listing.element? origin = some start ∧ start.row = element.row
  /-- What is found is selected, with its addresses as they are but for repeats. -/
  resolve_eq_some_iff : ∀ selection, listing.resolve pair origin = some selection ↔
    listing.nearest pair origin = some selection.element ∧
      selection.addresses.addresses = selection.element.addresses.eraseDups

/-- An element inside a use of a value, which stands beside a use of a binding inside a definition that can be
gone to. -/
def nestedOutline : Outline Draft :=
  ⟨[⟨none, "", [.node ⟨"", "", "plain", ""⟩ []]⟩,
    ⟨none, "", [.node ⟨"o", "DENV-DEF", "outer", ""⟩
      [.node ⟨"s", "ENV-USE", "side", ""⟩ [],
       .node ⟨"v,w,v", "VAL-USE", "inner", ""⟩ [.node ⟨"", "", "leaf", ""⟩ []]]]⟩]⟩

def nestedInner : Element := ⟨"inner", some "outer", 1, "", ["v", "w", "v"], [.fact .value .use]⟩

def nestedOuter : Element := ⟨"outer", none, 1, "", ["o"], [.navigable .binding .definition]⟩

def nestedListing : Listing :=
  .indexed [⟨0, none, "", ["plain"]⟩, ⟨1, none, "", ["outer", "side", "inner", "leaf"]⟩]
    [⟨"plain", none, 0, "", [], []⟩, nestedOuter,
     ⟨"side", some "outer", 1, "", ["s"], [.fact .binding .use]⟩, nestedInner,
     ⟨"leaf", some "inner", 1, "", [], []⟩]

theorem ofDraft_nestedOutline : ofDraft nestedOutline = .ok nestedListing := by
  decide +kernel

/-- The way up from the element inside the use of a value. -/
theorem isPathOf_leaf : nestedOutline.IsPathOf "leaf" 1
    [⟨"", "", "leaf", ""⟩, ⟨"v,w,v", "VAL-USE", "inner", ""⟩, ⟨"o", "DENV-DEF", "outer", ""⟩] := by
  refine ⟨⟨_, rfl, ?_⟩, rfl⟩
  exact .inside List.mem_cons_self
    (.inside (List.mem_cons_of_mem _ List.mem_cons_self) (.root List.mem_cons_self))

/-- In every outline that is accepted, and from every origin, whether the outline has it or not, the loop ends
and finds the first node with a tag of the pair on the way up to the root. -/
theorem resolves_along_path {outline : Outline Draft} {listing : Listing} (h : ofDraft outline = .ok listing)
    (pair : TagPair) (origin : ElementId) : ResolvesAlongPath outline listing pair origin where
  climbs_iff := climbs_iff_eq_nearest h
  existsUnique_path := existsUnique_isPathOf h
  nearest_eq_some_iff := nearest_eq_some_iff_isPathOf h
  nearest_eq_none_iff := nearest_eq_none_iff_isPathOf h
  row_eq _ := row_eq_of_nearest h
  resolve_eq_some_iff _ := resolve_eq_some_iff

/-- From the innermost element of the sample the use of a value is one node up and the definition two, and no
use of a binding is on the way. -/
theorem resolves_along_path_leaf :
    ofDraft nestedOutline = .ok nestedListing ∧
    nestedListing.nearest (.fact .value) "leaf" = some nestedInner ∧
    nestedListing.nearest (.navigable .binding) "leaf" = some nestedOuter ∧
    nestedListing.nearest (.fact .binding) "leaf" = none ∧
    nestedListing.nearest (.fact .binding) "absent" = none ∧
    nestedListing.resolve (.fact .value) "leaf" = some ⟨nestedInner, ⟨["v", "w"], by decide⟩⟩ := by
  have hresolves (pair : TagPair) (origin : ElementId) :
      ResolvesAlongPath nestedOutline nestedListing pair origin :=
    resolves_along_path ofDraft_nestedOutline pair origin
  have hinner : nestedListing.nearest (.fact .value) "leaf" = some nestedInner :=
    ((hresolves _ _).nearest_eq_some_iff _).2
      ⟨1, [_], _, _, isPathOf_leaf, by decide +kernel, by decide +kernel, by decide +kernel⟩
  refine ⟨ofDraft_nestedOutline, hinner, ?_, ?_, ?_, ?_⟩
  · exact ((hresolves _ _).nearest_eq_some_iff _).2
      ⟨1, [_, _], _, _, isPathOf_leaf, by decide +kernel, by decide +kernel, by decide +kernel⟩
  · exact (hresolves _ _).nearest_eq_none_iff.2 (.inr ⟨1, _, isPathOf_leaf, by decide +kernel⟩)
  · exact (hresolves _ _).nearest_eq_none_iff.2 (.inl (by decide))
  · exact ((hresolves _ _).resolve_eq_some_iff _).2 ⟨hinner, by decide⟩

end Listing

end DefUse
