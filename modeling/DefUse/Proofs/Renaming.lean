import DefUse.Operation
import DefUse.Proofs.Navigation
import Mathlib.Data.List.Forall2
import Mathlib.Logic.Equiv.Basic

/-!
# Opaque addresses

Addresses are compared with each other and with nothing else, and the texts of a listing are shown but
never looked at. The main statement compares two listings that differ in the names of the addresses, by an
injective renaming, and in texts and line numbers: every run makes the same transitions in both, step by
step, and every navigation ends in the same way.
-/

namespace DefUse

/-- The same element with renamed addresses. Its text may be any other. -/
structure Element.Renamed (rename : Address → Address) (element other : Element) : Prop where
  id_eq : other.id = element.id
  parent_eq : other.parent = element.parent
  row_eq : other.row = element.row
  tags_eq : other.tags = element.tags
  addresses_eq : other.addresses = element.addresses.map rename

/-- The same row. Its line and its text may be any others. -/
structure Row.Reworded (row other : Row) : Prop where
  index_eq : other.index = row.index
  elements_eq : other.elements = row.elements

/-- The same listing with renamed addresses, any texts and any lines. -/
structure Listing.Renamed (rename : Address → Address) (listing other : Listing) : Prop where
  rows : List.Forall₂ Row.Reworded listing.rows other.rows
  elements : List.Forall₂ (Element.Renamed rename) listing.elements other.elements

/-! ## Address lists and sets -/

section Addresses

variable {rename : Address → Address} (hrename : Function.Injective rename)

include hrename

theorem firstOccurrences_map (addresses : List Address) :
    firstOccurrences (addresses.map rename) = (firstOccurrences addresses).map rename := by
  induction addresses with
  | nil => rfl
  | cons address rest ih =>
    have hfilter : ((· != rename address) ∘ rename) = (· != address) := by
      funext other
      rw [Function.comp_apply, Bool.eq_iff_iff, bne_iff_ne, bne_iff_ne, hrename.ne_iff]
    rw [List.map_cons, firstOccurrences, firstOccurrences, ih, List.filter_map, hfilter, List.map_cons]

theorem intersects_ofList_map (addresses others : List Address) :
    (AddressSet.ofList (addresses.map rename)).intersects (others.map rename) =
      (AddressSet.ofList addresses).intersects others := by
  rw [Bool.eq_iff_iff, AddressSet.intersects_iff, AddressSet.intersects_iff]
  simp only [AddressSet.ofList, firstOccurrences_map hrename, List.mem_map]
  constructor
  · rintro ⟨_, ⟨address, haddress, rfl⟩, other, hother, hsame⟩
    exact ⟨address, haddress, hrename hsame ▸ hother⟩
  · rintro ⟨address, haddress, hset⟩
    exact ⟨rename address, ⟨address, haddress, rfl⟩, address, hset, rfl⟩

theorem Element.Renamed.addresses_eq_iff {first second other otherSecond : Element}
    (hfirst : first.Renamed rename other) (hsecond : second.Renamed rename otherSecond) :
    other.addresses = otherSecond.addresses ↔ first.addresses = second.addresses := by
  rw [hfirst.addresses_eq, hsecond.addresses_eq]
  exact (List.map_injective_iff.2 hrename).eq_iff

end Addresses

/-! ## Elements and rows -/

section Lists

variable {rename : Address → Address} {listing other : Listing}

theorem Element.Renamed.roleIn_eq {element image : Element} (h : element.Renamed rename image)
    (pair : TagPair) : image.roleIn pair = element.roleIn pair := by
  unfold Element.roleIn
  rw [h.tags_eq]

/-- Climbing from an origin leads to the same element. -/
theorem nearestIn_renamed {part image : List Element} (h : List.Forall₂ (Element.Renamed rename) part image)
    (pair : TagPair) (origin : ElementId) :
    Option.Rel (Element.Renamed rename) (nearestIn pair origin part) (nearestIn pair origin image) := by
  induction h generalizing origin with
  | nil => exact .none
  | cons hfirst _ ih =>
    simp only [nearestIn, hfirst.id_eq, hfirst.roleIn_eq, hfirst.parent_eq]
    split
    · split
      · exact .some hfirst
      · split
        · exact ih _
        · exact .none
    · exact ih origin

/-- What renaming leaves alone is the same along related lists. -/
theorem map_eq_of_forall₂ {α β : Type} {relation : α → α → Prop} {value : α → β}
    (hvalue : ∀ item image, relation item image → value image = value item) {part image : List α}
    (h : List.Forall₂ relation part image) : image.map value = part.map value := by
  induction h with
  | nil => rfl
  | cons hfirst _ ih => rw [List.map_cons, List.map_cons, hvalue _ _ hfirst, ih]

theorem View.markAll_renamed {part image : List Element}
    (h : List.Forall₂ (Element.Renamed rename) part image) (view : View) (mark : Mark) :
    view.markAll image mark = view.markAll part mark := by
  induction h generalizing view with
  | nil => rfl
  | cons hfirst _ ih =>
    unfold View.markAll at ih ⊢
    rw [List.foldl_cons, List.foldl_cons, hfirst.id_eq, ih]

variable (h : listing.Renamed rename other)

include h

/-- Nothing stands for an origin in either listing, or an element does and its renamed self does. -/
theorem Listing.Renamed.nearest_cases (pair : TagPair) (origin : ElementId) :
    listing.nearest pair origin = none ∧ other.nearest pair origin = none ∨
    ∃ selected image, listing.nearest pair origin = some selected ∧
      other.nearest pair origin = some image ∧ selected.Renamed rename image := by
  have hrelated := nearestIn_renamed (List.rel_reverse h.elements) pair origin
  unfold Listing.nearest
  generalize nearestIn pair origin listing.elements.reverse = found at hrelated ⊢
  generalize nearestIn pair origin other.elements.reverse = foundImage at hrelated ⊢
  cases hrelated with
  | none => exact .inl ⟨rfl, rfl⟩
  | some hrenamed => exact .inr ⟨_, _, rfl, rfl, hrenamed⟩

theorem Listing.Renamed.tagged (tag : Tag) :
    List.Forall₂ (Element.Renamed rename) (listing.tagged tag) (other.tagged tag) := by
  refine List.rel_filter (fun element image hrenamed ↦ ?_) h.elements
  simp only [hrenamed.tags_eq]

theorem Listing.Renamed.filter_tagged (tag : Tag) {keep keepImage : Element → Bool}
    (hkeep : ∀ element image, element.Renamed rename image → keepImage image = keep element) :
    List.Forall₂ (Element.Renamed rename) ((listing.tagged tag).filter keep)
      ((other.tagged tag).filter keepImage) := by
  refine List.rel_filter (fun element image hrenamed ↦ ?_) (h.tagged tag)
  simp only [hkeep element image hrenamed]

theorem Listing.Renamed.hideAllRows (view : View) : view.hideAllRows other = view.hideAllRows listing := by
  have hindices : other.rows.map Row.index = listing.rows.map Row.index :=
    map_eq_of_forall₂ (fun _ _ hreworded ↦ hreworded.index_eq) h.rows
  unfold View.hideAllRows
  rw [hindices]

theorem Listing.Renamed.markPair (view : View) (pair : TagPair) {keep keepImage : Element → Bool}
    (hkeep : ∀ element image, element.Renamed rename image → keepImage image = keep element) :
    view.markPair other pair keepImage = view.markPair listing pair keep := by
  unfold View.markPair
  rw [View.markAll_renamed (h.filter_tagged pair.use hkeep),
    View.markAll_renamed (h.filter_tagged pair.definition hkeep)]

end Lists

/-! ## Operations -/

section Operations

variable {rename : Address → Address} (hrename : Function.Injective rename) {listing other : Listing}
  (h : listing.Renamed rename other)

include hrename

theorem isRelated_renamed {element image : Element} (hrenamed : element.Renamed rename image)
    (addresses : List Address) :
    isRelated (.ofList (addresses.map rename)) image = isRelated (.ofList addresses) element := by
  unfold isRelated
  rw [hrenamed.addresses_eq, intersects_ofList_map hrename]

theorem agree_renamed {part image : List Element} (hpart : List.Forall₂ (Element.Renamed rename) part image) :
    agree image = agree part := by
  cases hpart with
  | nil => rfl
  | cons hfirst hothers =>
    simp only [agree]
    induction hothers with
    | nil => rfl
    | cons hnext _ ih =>
      rw [List.all_cons, List.all_cons, ih]
      simp only [hnext.addresses_eq_iff hrename hfirst]

include h

theorem showRelated_renamed (kind : FactKind) (addresses : List Address) :
    showRelated other kind (.ofList (addresses.map rename)) = showRelated listing kind (.ofList addresses) :=
  h.markPair .initial (.fact kind) fun _ _ hrenamed ↦ isRelated_renamed hrename hrenamed addresses

theorem relatedFacts_renamed (kind : FactKind) (addresses : List Address) :
    List.Forall₂ (Element.Renamed rename) (relatedFacts listing kind (.ofList addresses))
      (relatedFacts other kind (.ofList (addresses.map rename))) := by
  refine List.rel_filter (fun element image hrenamed ↦ ?_)
    (List.rel_filter (fun element image hrenamed ↦ ?_) h.elements)
  · simp only [isRelated_renamed hrename hrenamed]
  · simp only [hrenamed.roleIn_eq]

theorem sliceToRelated_renamed (kind : FactKind) (addresses : List Address) (view : View) :
    sliceToRelated other kind (some (.ofList (addresses.map rename))) view =
      sliceToRelated listing kind (some (.ofList addresses)) view := by
  have hrows : (relatedFacts other kind (.ofList (addresses.map rename))).map Element.row =
      (relatedFacts listing kind (.ofList addresses)).map Element.row :=
    map_eq_of_forall₂ (fun _ _ hrenamed ↦ hrenamed.row_eq) (relatedFacts_renamed hrename h kind addresses)
  simp only [sliceToRelated]
  rw [hrows, h.hideAllRows,
    h.markPair _ (.fact kind) fun _ _ hrenamed ↦ isRelated_renamed hrename hrenamed addresses]

theorem targets_renamed (kind : NavKind) (addresses : List Address) :
    List.Forall₂ (Element.Renamed rename) (targets listing kind (.ofList addresses))
      (targets other kind (.ofList (addresses.map rename))) :=
  h.filter_tagged _ fun _ _ hrenamed ↦ isRelated_renamed hrename hrenamed addresses

theorem showLinked_renamed (origin : ElementId) (view : View) :
    showLinked other origin view = showLinked listing origin view := by
  unfold showLinked
  rcases h.nearest_cases .linked origin with ⟨hnone, hnoneImage⟩ | ⟨selected, image, hsome, himage, hselected⟩
  · rw [hnone, hnoneImage]
  · have hlinked (element elementImage : Element) (hrenamed : element.Renamed rename elementImage) :
        decide (elementImage.addresses = image.addresses) =
          decide (element.addresses = selected.addresses) := by
      simp only [hrenamed.addresses_eq_iff hrename hselected]
    rw [hsome, himage]
    simp only [hselected.roleIn_eq, hselected.id_eq]
    rw [h.markPair view.clearMarks .linked hlinked,
      View.markAll_renamed (h.filter_tagged TagPair.linked.use hlinked)]

theorem goToDefinition_renamed (duration : UInt64) (kind : NavKind) (origin : ElementId) (view : View) :
    goToDefinition other duration kind origin view = goToDefinition listing duration kind origin view := by
  unfold goToDefinition Listing.resolve
  rcases h.nearest_cases (.navigable kind) origin with
    ⟨hnone, hnoneImage⟩ | ⟨selected, image, hsome, himage, hselected⟩
  · rw [hnone, hnoneImage]
    rfl
  · have htargets := targets_renamed hrename h kind selected.addresses
    have hrows := map_eq_of_forall₂ (fun _ _ hrenamed ↦ Element.Renamed.row_eq hrenamed) htargets
    have hagree := agree_renamed hrename htargets
    rw [hsome, himage]
    simp only [Option.map_some, hselected.id_eq, hselected.row_eq, hselected.addresses_eq,
      View.markAll_renamed htargets, h.hideAllRows, hrows, hagree]
    -- What is left to compare is the first target, if there is one.
    generalize targets listing kind (.ofList selected.addresses) = found at htargets ⊢
    generalize targets other kind (.ofList (selected.addresses.map rename)) = foundImage at htargets ⊢
    cases htargets with
    | nil => rfl
    | cons hfirst _ => simp only [hfirst.id_eq, hfirst.row_eq]

end Operations

namespace Operation

section Runs

variable {rename : Address → Address} (hrename : Function.Injective rename) {listing other : Listing}
  (h : listing.Renamed rename other)

include h

/-- The addresses that an origin stands for are renamed. -/
theorem addresses_renamed (kind : FactKind) (origin : Option ElementId) :
    addresses listing kind origin = none ∧ addresses other kind origin = none ∨
    ∃ list : List Address, addresses listing kind origin = some (.ofList list) ∧
      addresses other kind origin = some (.ofList (list.map rename)) := by
  unfold addresses Listing.resolve
  cases origin with
  | none => exact .inl ⟨rfl, rfl⟩
  | some id =>
    rcases h.nearest_cases (.fact kind) id with
      ⟨hnone, hnoneImage⟩ | ⟨selected, image, hsome, himage, hselected⟩
    · simp [hnone, hnoneImage]
    · refine .inr ⟨selected.addresses, ?_, ?_⟩
      · simp [hsome]
      · simp [himage, hselected.addresses_eq]

include hrename

/-- What an operation makes of a view does not depend on the names of the addresses. -/
theorem apply_renamed (duration : UInt64) (operation : Operation) (view : View) :
    operation.apply other duration view = operation.apply listing duration view := by
  rcases operation with ⟨command, origin⟩
  cases command with
  | erase => rfl
  | unslice => rfl
  | highlight mode kind =>
    cases mode with
    | all => exact congrArg Transition.to (h.markPair .initial (.fact kind) fun _ _ _ ↦ rfl)
    | selected =>
      rcases addresses_renamed h kind origin with ⟨hnone, hnoneImage⟩ | ⟨list, hsome, himage⟩
      · simp only [apply, hnone, hnoneImage]
      · simp only [apply, hsome, himage, showRelated_renamed hrename h]
    | slice =>
      rcases addresses_renamed h kind origin with ⟨hnone, hnoneImage⟩ | ⟨list, hsome, himage⟩
      · simp only [apply, hnone, hnoneImage, sliceToRelated]
      · simp only [apply, hsome, himage, sliceToRelated_renamed hrename h]
  | goTo kind =>
    cases origin with
    | none => rfl
    | some id => exact congrArg Prod.fst (goToDefinition_renamed hrename h duration kind id view)
  | link =>
    cases origin with
    | none => rfl
    | some id => exact congrArg Transition.to (showLinked_renamed hrename h id view)

theorem trace_renamed (duration : UInt64) (operations : List Operation) (view : View) :
    trace other duration view operations = trace listing duration view operations := by
  induction operations generalizing view with
  | nil => rfl
  | cons operation rest ih => simp only [trace, apply_renamed hrename h, ih]

theorem replay_renamed (duration : UInt64) (operations : List Operation) :
    replay other duration operations = replay listing duration operations := by
  unfold replay
  congr 1
  funext transition operation
  exact apply_renamed hrename h duration operation transition.view

end Runs

/-! ## A sample -/

/-- The sample with its two addresses exchanged, other texts and other lines. -/
def exchangedListing : Listing :=
  .indexed [⟨0, none, "first", ["d"]⟩, ⟨1, some 7, "second", ["u", "g"]⟩, ⟨2, some 7, "", ["w"]⟩]
    [⟨"d", none, 0, "x", ["b"],
      [.fact .binding .definition, .linked .definition, .navigable .binding .definition]⟩,
     ⟨"u", none, 1, "y", ["b"], [.fact .binding .use, .linked .use, .navigable .binding .use]⟩,
     ⟨"g", some "u", 1, "", [], []⟩,
     ⟨"w", none, 2, "z", ["b", "a"], [.navigable .binding .definition]⟩]

theorem sampleListing_renamed_exchangedListing :
    Listing.sampleListing.Renamed (Equiv.swap "a" "b") exchangedListing where
  rows := .cons ⟨rfl, rfl⟩ (.cons ⟨rfl, rfl⟩ (.cons ⟨rfl, rfl⟩ .nil))
  elements := by
    refine .cons ⟨rfl, rfl, rfl, rfl, ?_⟩ (.cons ⟨rfl, rfl, rfl, rfl, ?_⟩
      (.cons ⟨rfl, rfl, rfl, rfl, ?_⟩ (.cons ⟨rfl, rfl, rfl, rfl, ?_⟩ .nil))) <;> decide

/-! ## Runs over renamed listings -/

/-- Addresses are opaque. Over a listing whose addresses are renamed by an injective map, with any texts and
lines, every run makes the same transitions step by step, and every navigation makes the same transition and
ends in the same way. -/
theorem run_eq_of_injective_renaming {rename : Address → Address} (hrename : Function.Injective rename)
    {listing other : Listing} (h : listing.Renamed rename other) (duration : UInt64) :
    (∀ operations : List Operation,
      trace other duration .initial operations = trace listing duration .initial operations ∧
      replay other duration operations = replay listing duration operations) ∧
    ∀ kind origin view,
      goToDefinition other duration kind origin view = goToDefinition listing duration kind origin view := by
  refine ⟨fun operations ↦ ?_, fun kind origin view ↦ ?_⟩
  · exact ⟨trace_renamed hrename h duration operations .initial, replay_renamed hrename h duration operations⟩
  · exact goToDefinition_renamed hrename h duration kind origin view

/-- In the sample and in the sample with exchanged addresses, a slice from the use and a navigation from there
do the same: the navigation is ambiguous and shows the row of the second definition again. -/
theorem run_eq_of_injective_renaming_sample :
    Function.Injective (Equiv.swap "a" "b") ∧
    Listing.sampleListing.Renamed (Equiv.swap "a" "b") exchangedListing ∧
    (trace Listing.sampleListing 200 .initial
      [⟨.highlight .slice .binding, some "g"⟩, ⟨.goTo .binding, some "u"⟩]).map
        (fun step ↦ (step.2.view.hiddenRows, step.2.view.marked)) =
      [([2], [("d", .definition), ("u", .use)]), ([], [("d", .target), ("u", .use), ("w", .target)])] ∧
    trace exchangedListing 200 .initial
        [⟨.highlight .slice .binding, some "g"⟩, ⟨.goTo .binding, some "u"⟩] =
      trace Listing.sampleListing 200 .initial
        [⟨.highlight .slice .binding, some "g"⟩, ⟨.goTo .binding, some "u"⟩] ∧
    (goToDefinition Listing.sampleListing 200 .binding "u" .initial).2 = .ambiguous ∧
    (goToDefinition exchangedListing 200 .binding "u" .initial).2 = .ambiguous := by
  have hrename : Function.Injective (Equiv.swap "a" "b") := (Equiv.swap "a" "b").injective
  have h := run_eq_of_injective_renaming hrename sampleListing_renamed_exchangedListing 200
  have hambiguous : (goToDefinition Listing.sampleListing 200 .binding "u" .initial).2 = .ambiguous := by
    decide +kernel
  refine ⟨hrename, sampleListing_renamed_exchangedListing, by decide +kernel, (h.1 _).1, hambiguous, ?_⟩
  rw [h.2]
  exact hambiguous

end Operation

end DefUse
