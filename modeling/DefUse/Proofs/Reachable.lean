import DefUse.Proofs.LastWriter

/-!
# Reachable views

Whatever operations lead to a view, it marks elements of the listing only and hides rows of the listing
only. Its marks belong to one pair of tags: they are those of facts of one kind, of one navigation, or of
one link. An operation that keeps the marks keeps their shape, so it is enough to look at what each
operation makes of the initial view.
-/

namespace DefUse

/-- The views that operations reach from the initial one. -/
inductive Reachable (listing : Listing) : View → Prop where
  | initial : Reachable listing .initial
  | apply {view : View} (duration : UInt64) (operation : Operation) (h : Reachable listing view) :
      Reachable listing (operation.apply listing duration view).view

/-- Every marked element is a fact of the kind, marked as a definition if it is one and else as a use. -/
def MarksFacts (listing : Listing) (kind : FactKind) (view : View) : Prop :=
  ∀ element mark, view.Marks listing element mark →
    ((TagPair.fact kind).definition ∈ element.tags ∨ (TagPair.fact kind).use ∈ element.tags) ∧
    mark = if (TagPair.fact kind).definition ∈ element.tags then .definition else .use

/-- At most one element is marked as a use. All others that are marked are targets. -/
structure MarksNavigation (listing : Listing) (kind : NavKind) (view : View) : Prop where
  use_unique : ∀ element other,
    view.Marks listing element .use → view.Marks listing other .use → element = other
  use_tags : ∀ element, view.Marks listing element .use →
    (TagPair.navigable kind).definition ∈ element.tags ∨ (TagPair.navigable kind).use ∈ element.tags
  target_tags : ∀ element mark, view.Marks listing element mark → mark ≠ .use →
    mark = .target ∧ (TagPair.navigable kind).definition ∈ element.tags

/-- All marked elements have one address list. At most one of them is marked as a definition without
being one. -/
structure MarksLink (listing : Listing) (view : View) : Prop where
  not_target : ∀ element, ¬view.Marks listing element .target
  tags : ∀ element mark, view.Marks listing element mark →
    TagPair.linked.definition ∈ element.tags ∨ TagPair.linked.use ∈ element.tags
  use_tag : ∀ element, view.Marks listing element .use → TagPair.linked.use ∈ element.tags
  selection_unique : ∀ element other,
    view.Marks listing element .definition → TagPair.linked.definition ∉ element.tags →
    view.Marks listing other .definition → TagPair.linked.definition ∉ other.tags → element = other
  same_addresses : ∀ element other mark otherMark, view.Marks listing element mark →
    view.Marks listing other otherMark → element.addresses = other.addresses

/-- The marks of a view belong to one pair of tags. -/
def MarksOnePair (listing : Listing) (view : View) : Prop :=
  view.marks = ∅ ∨ (∃ kind, MarksFacts listing kind view) ∨
    (∃ kind, MarksNavigation listing kind view) ∨ MarksLink listing view

/-- Only rows of the listing are hidden. -/
def HidesWithin (listing : Listing) (view : View) : Prop :=
  ∀ index, index ∈ view.hidden → ∃ row ∈ listing.rows, row.index = index

/-- What holds of every view that is reached. -/
structure ViewInvariant (listing : Listing) (view : View) : Prop where
  marksWithin : view.MarksWithin listing
  hidesWithin : HidesWithin listing view
  marksOnePair : MarksOnePair listing view

/-- The shape of the marks is a matter of the marks alone. -/
theorem MarksOnePair.congr {listing : Listing} {view other : View} (h : MarksOnePair listing view)
    (hmarks : other.marks = view.marks) : MarksOnePair listing other := by
  have hsame (element : Element) (mark : Mark) :
      other.Marks listing element mark ↔ view.Marks listing element mark := by
    unfold View.Marks View.markOf
    rw [hmarks]
  rcases h with hempty | ⟨kind, hfacts⟩ | ⟨kind, hnavigation⟩ | hlink
  · exact .inl (hmarks.trans hempty)
  · refine .inr (.inl ⟨kind, fun element mark h ↦ ?_⟩)
    exact hfacts element mark ((hsame element mark).1 h)
  · refine .inr (.inr (.inl ⟨kind, ?_, ?_, ?_⟩)) <;> simp only [hsame]
    · exact hnavigation.use_unique
    · exact hnavigation.use_tags
    · exact hnavigation.target_tags
  · refine .inr (.inr (.inr ⟨?_, ?_, ?_, ?_, ?_⟩)) <;> simp only [hsame]
    · exact hlink.not_target
    · exact hlink.tags
    · exact hlink.use_tag
    · exact hlink.selection_unique
    · exact hlink.same_addresses

/-! ## The marks that operations make -/

section Shapes

variable {listing : Listing} (hlisting : listing.WellFormed) {view : View}

include hlisting

theorem marksFacts_markPair (kind : FactKind) (keep : Element → Bool) (hempty : view.marks = ∅) :
    MarksFacts listing kind (view.markPair listing (.fact kind) keep) := by
  intro element mark hmarks
  rcases ((View.marks_markPair_iff hlisting hempty).1 hmarks).2.2 with
    ⟨hdefinition, rfl⟩ | ⟨hdefinition, huse, rfl⟩
  · exact ⟨.inl hdefinition, by rw [if_pos hdefinition]⟩
  · exact ⟨.inr huse, by rw [if_neg hdefinition]⟩

theorem marksNavigation_markTargets {kind : NavKind} {origin : ElementId} {selection : Selection}
    (hresolve : listing.resolve (.navigable kind) origin = some selection) :
    MarksNavigation listing kind (view.markTargets listing kind selection) := by
  have hnearest := Listing.nearest_of_resolve_eq_some hresolve
  have hselected := Listing.mem_of_nearest_eq_some hnearest
  have htargets : ∀ element ∈ targets listing kind selection.addresses, element ∈ listing.elements :=
    fun element helement ↦ (mem_targets.1 helement).1
  -- A marked element is a target, or it is the selection and no target.
  have hcases {element : Element} {mark : Mark}
      (h : (view.markTargets listing kind selection).Marks listing element mark) :
      mark = .target ∧ (TagPair.navigable kind).definition ∈ element.tags ∨
        mark = .use ∧ element = selection.element := by
    rcases (View.marks_markAll_iff hlisting htargets).1 h with ⟨htarget, rfl⟩ | ⟨_, h⟩
    · exact .inl ⟨rfl, (mem_targets.1 htarget).2.1⟩
    · rcases (View.marks_mark_iff hlisting hselected).1 h with ⟨rfl, rfl⟩ | ⟨_, h⟩
      · exact .inr ⟨rfl, rfl⟩
      · exact absurd h (View.not_marks_of_marks_eq_empty rfl)
  have huse {element : Element}
      (h : (view.markTargets listing kind selection).Marks listing element .use) :
      element = selection.element := by
    rcases hcases h with ⟨hmark, _⟩ | ⟨_, heq⟩
    · contradiction
    · exact heq
  refine ⟨fun element other h hother ↦ (huse h).trans (huse hother).symm, fun element h ↦ ?_,
    fun element mark h hmark ↦ ?_⟩
  · rw [huse h]
    exact Listing.tags_of_nearest_eq_some hnearest
  · rcases hcases h with htarget | ⟨heq, _⟩
    · exact htarget
    · exact absurd heq hmark

/-- A marked element is the selection, or it is linked to it and has the role that its mark says. -/
theorem marks_showLinked {origin : ElementId} {selected element : Element} {mark : Mark}
    (hselected : listing.nearest .linked origin = some selected)
    (h : (showLinked listing origin view).Marks listing element mark) :
    element = selected ∧ mark = .definition ∨
      element.addresses = selected.addresses ∧
        (mark = .definition ∧ TagPair.linked.definition ∈ element.tags ∨
          mark = .use ∧ TagPair.linked.use ∈ element.tags) := by
  have hmem := Listing.mem_of_nearest_eq_some hselected
  rw [showLinked, hselected] at h
  rcases (View.marks_mark_iff hlisting hmem).1 h with ⟨rfl, rfl⟩ | ⟨_, h⟩
  · exact .inl ⟨rfl, rfl⟩
  · refine .inr ?_
    split at h
    · rcases (View.marks_markAll_iff hlisting Listing.mem_of_mem_filter_tagged).1 h with
        ⟨hlinked, rfl⟩ | ⟨_, h⟩
      · obtain ⟨htagged, haddresses⟩ := List.mem_filter.1 hlinked
        exact ⟨of_decide_eq_true haddresses, .inr ⟨rfl, (Listing.mem_tagged.1 htagged).2⟩⟩
      · exact absurd h (View.not_marks_of_marks_eq_empty rfl)
    · obtain ⟨_, haddresses, hrole⟩ := (View.marks_markPair_iff hlisting rfl).1 h
      refine ⟨of_decide_eq_true haddresses, ?_⟩
      rcases hrole with ⟨hdefinition, hmark⟩ | ⟨_, huse, hmark⟩
      · exact .inl ⟨hmark, hdefinition⟩
      · exact .inr ⟨hmark, huse⟩

theorem marksLink_showLinked {origin : ElementId} {selected : Element}
    (hselected : listing.nearest .linked origin = some selected) :
    MarksLink listing (showLinked listing origin view) := by
  have haddresses {element : Element} {mark : Mark}
      (h : (showLinked listing origin view).Marks listing element mark) :
      element.addresses = selected.addresses := by
    rcases marks_showLinked hlisting hselected h with ⟨rfl, _⟩ | ⟨h, _⟩
    · rfl
    · exact h
  have hselection {element : Element}
      (h : (showLinked listing origin view).Marks listing element .definition)
      (hdefinition : TagPair.linked.definition ∉ element.tags) : element = selected := by
    rcases marks_showLinked hlisting hselected h with ⟨heq, _⟩ | ⟨_, ⟨_, htag⟩ | ⟨hmark, _⟩⟩
    · exact heq
    · exact absurd htag hdefinition
    · contradiction
  refine ⟨fun element h ↦ ?_, fun element mark h ↦ ?_, fun element h ↦ ?_,
    fun element other h hdefinition hother hotherDefinition ↦ ?_,
    fun element other mark otherMark h hother ↦ (haddresses h).trans (haddresses hother).symm⟩
  · rcases marks_showLinked hlisting hselected h with ⟨_, hmark⟩ | ⟨_, ⟨hmark, _⟩ | ⟨hmark, _⟩⟩ <;>
      contradiction
  · rcases marks_showLinked hlisting hselected h with ⟨rfl, _⟩ | ⟨_, ⟨_, htag⟩ | ⟨_, htag⟩⟩
    · exact Listing.tags_of_nearest_eq_some hselected
    · exact .inl htag
    · exact .inr htag
  · rcases marks_showLinked hlisting hselected h with ⟨_, hmark⟩ | ⟨_, ⟨hmark, _⟩ | ⟨_, htag⟩⟩
    · contradiction
    · contradiction
    · exact htag
  · exact (hselection h hdefinition).trans (hselection hother hotherDefinition).symm

end Shapes

/-! ## The rows that operations hide -/

section Rows

variable {listing : Listing} {view : View}

theorem hidesWithin_of_hidden_eq_empty (h : view.hidden = ∅) : HidesWithin listing view := by
  intro index hindex
  rw [h] at hindex
  simp at hindex

theorem HidesWithin.congr {other : View} (h : HidesWithin listing view)
    (hhidden : other.hidden = view.hidden) : HidesWithin listing other := by
  unfold HidesWithin
  rw [hhidden]
  exact h

/-- Hiding all rows and showing some of them again hides rows of the listing only. -/
theorem hidesWithin_showRows (rows : List Nat)
    (h : view.hidden = Std.ExtTreeSet.ofList (listing.rows.map Row.index)) :
    HidesWithin listing (view.showRows rows) := by
  intro index hindex
  have hall : index ∈ (view.hideAllRows listing).hidden := by
    rw [View.hidden_hideAllRows, ← h]
    exact ((View.mem_hidden_showRows view rows index).1 hindex).1
  exact List.mem_map.1 ((View.mem_hidden_hideAllRows listing view index).1 hall)

end Rows

/-! ## Steps and runs -/

section Invariant

variable {listing : Listing}

theorem viewInvariant_initial : ViewInvariant listing .initial :=
  ⟨View.marksWithin_of_marks_eq_empty rfl, hidesWithin_of_hidden_eq_empty rfl, .inl rfl⟩

variable (hlisting : listing.WellFormed)

include hlisting

theorem viewInvariant_markPair (kind : FactKind) (keep : Element → Bool) :
    ViewInvariant listing (View.initial.markPair listing (.fact kind) keep) :=
  ⟨(View.marksWithin_of_marks_eq_empty rfl).markPair _ _,
    hidesWithin_of_hidden_eq_empty (View.hidden_markPair ..),
    .inr (.inl ⟨kind, marksFacts_markPair hlisting kind keep rfl⟩)⟩

theorem viewInvariant_sliceToRelated (kind : FactKind) (addresses : AddressSet) :
    ViewInvariant listing (sliceToRelated listing kind (some addresses) .initial) := by
  let marked := (View.initial.clearMarks.hideAllRows listing).markPair listing (.fact kind)
    (isRelated addresses)
  have hmarks : (sliceToRelated listing kind (some addresses) .initial).marks = marked.marks :=
    View.marks_showRows marked _
  refine ⟨?_, hidesWithin_showRows _ (View.hidden_markPair ..), ?_⟩
  · exact ((View.marksWithin_of_marks_eq_empty rfl).markPair _ _).congr hmarks
  · have hfacts : MarksFacts listing kind marked := marksFacts_markPair hlisting kind _ rfl
    exact MarksOnePair.congr (.inr (.inl ⟨kind, hfacts⟩)) hmarks

theorem viewInvariant_goToDefinition (duration : UInt64) (kind : NavKind) (origin : ElementId) :
    ViewInvariant listing (goToDefinition listing duration kind origin .initial).1.view := by
  rcases outcome_cases listing kind origin with hresolve | ⟨selection, hresolve, houtcome⟩
  · rw [goToDefinition_unresolved _ _ hresolve]
    exact viewInvariant_initial
  · let marked := View.initial.markTargets listing kind selection
    have hshape : MarksOnePair listing marked :=
      .inr (.inr (.inl ⟨kind, marksNavigation_markTargets hlisting hresolve⟩))
    have hwithin : marked.MarksWithin listing := by
      have hselected := Listing.mem_of_nearest_eq_some (Listing.nearest_of_resolve_eq_some hresolve)
      exact ((View.marksWithin_of_marks_eq_empty rfl).mark hselected .use).markAll
        (fun element helement ↦ (mem_targets.1 helement).1) .target
    have hkept : ViewInvariant listing marked :=
      ⟨hwithin, hidesWithin_of_hidden_eq_empty (hidden_markTargets ..), hshape⟩
    rcases houtcome with hfound | ⟨first, rest, hfound, hagree⟩ | hagree
    · rw [goToDefinition_noTarget _ _ hresolve hfound]
      exact hkept
    · rw [goToDefinition_unique _ _ hresolve hfound hagree]
      exact hkept
    · rw [goToDefinition_ambiguous _ _ hresolve hagree]
      have hmarks (rows : List Nat) :
          ((marked.hideAllRows listing).showRows rows).marks = marked.marks := by
        rw [View.marks_showRows, View.marks_hideAllRows]
      exact ⟨hwithin.congr (hmarks _), hidesWithin_showRows _ (View.hidden_hideAllRows ..),
        hshape.congr (hmarks _)⟩

theorem viewInvariant_showLinked (origin : ElementId) :
    ViewInvariant listing (showLinked listing origin .initial) := by
  cases hselected : listing.nearest .linked origin with
  | none =>
    rw [showLinked, hselected]
    exact viewInvariant_initial
  | some selected =>
    have hhidden : (showLinked listing origin .initial).hidden = ∅ := by
      rw [showLinked_effect listing hselected]
      rfl
    refine ⟨?_, hidesWithin_of_hidden_eq_empty hhidden,
      .inr (.inr (.inr (marksLink_showLinked hlisting hselected)))⟩
    rw [showLinked, hselected]
    refine View.MarksWithin.mark ?_ (Listing.mem_of_nearest_eq_some hselected) .definition
    have hempty : View.initial.clearMarks.MarksWithin listing :=
      View.marksWithin_of_marks_eq_empty rfl
    split
    · exact hempty.markAll Listing.mem_of_mem_filter_tagged .use
    · exact hempty.markPair _ _

/-- What an operation makes of the initial view. -/
theorem viewInvariant_apply_initial (duration : UInt64) (operation : Operation) :
    ViewInvariant listing (operation.apply listing duration .initial).view := by
  rcases operation with ⟨command, origin⟩
  cases command with
  | erase => exact viewInvariant_initial
  | unslice => exact viewInvariant_initial
  | highlight mode kind =>
    cases mode with
    | all => exact viewInvariant_markPair hlisting kind _
    | selected =>
      simp only [Operation.apply]
      cases Operation.addresses listing kind origin with
      | none => exact viewInvariant_initial
      | some addresses => exact viewInvariant_markPair hlisting kind _
    | slice =>
      simp only [Operation.apply]
      cases Operation.addresses listing kind origin with
      | none => exact viewInvariant_initial
      | some addresses => exact viewInvariant_sliceToRelated hlisting kind addresses
  | goTo kind =>
    cases origin with
    | none => exact viewInvariant_initial
    | some origin => exact viewInvariant_goToDefinition hlisting duration kind origin
  | link =>
    cases origin with
    | none => exact viewInvariant_initial
    | some origin => exact viewInvariant_showLinked hlisting origin

/-- A part of the next view is the one that was there or the one that is made of the initial view, and
the invariant holds of both. -/
theorem viewInvariant_apply {view : View} (h : ViewInvariant listing view) (duration : UInt64)
    (operation : Operation) : ViewInvariant listing (operation.apply listing duration view).view := by
  have hinitial := viewInvariant_apply_initial hlisting duration operation
  have hhides : HidesWithin listing (operation.apply listing duration view).view := by
    rcases operation.keeps_or_writes_hidden listing duration with hkeeps | ⟨hidden, hwrites⟩
    · exact h.hidesWithin.congr (hkeeps view)
    · exact hinitial.hidesWithin.congr ((hwrites view).trans (hwrites .initial).symm)
  rcases operation.keeps_or_writes_marks listing duration with hkeeps | ⟨marks, hwrites⟩
  · exact ⟨h.marksWithin.congr (hkeeps view), hhides, h.marksOnePair.congr (hkeeps view)⟩
  · have hmarks := (hwrites view).trans (hwrites .initial).symm
    exact ⟨hinitial.marksWithin.congr hmarks, hhides, hinitial.marksOnePair.congr hmarks⟩

theorem viewInvariant_of_reachable {view : View} (h : Reachable listing view) :
    ViewInvariant listing view := by
  induction h with
  | initial => exact viewInvariant_initial
  | apply duration operation _ ih => exact viewInvariant_apply hlisting ih duration operation

end Invariant

/-- In every listing that is read, each view that operations reach marks elements of the listing and hides
rows of it, and its marks belong to one pair of tags. -/
theorem viewInvariant_of_ofText {source : String} {listing : Listing}
    (hread : Listing.ofText source = .ok listing) {view : View} (hview : Reachable listing view) :
    ViewInvariant listing view :=
  viewInvariant_of_reachable (.ofText hread) hview

/-- A slice and then a link, both from the element inside the use. -/
def sampleView : View :=
  let sliced := Operation.apply Listing.sampleListing 200 ⟨.highlight .slice .binding, some "g"⟩ .initial
  (Operation.apply Listing.sampleListing 200 ⟨.link, some "g"⟩ sliced.view).view

theorem viewInvariant_sampleView :
    Listing.ofText Listing.sampleSource = .ok Listing.sampleListing ∧
      Reachable Listing.sampleListing sampleView ∧
      sampleView.marked = [("d", .definition), ("u", .definition)] ∧ sampleView.hiddenRows = [2] ∧
      ViewInvariant Listing.sampleListing sampleView := by
  have hreachable : Reachable Listing.sampleListing sampleView :=
    .apply 200 ⟨.link, some "g"⟩ (.apply 200 ⟨.highlight .slice .binding, some "g"⟩ .initial)
  exact ⟨Listing.ofText_sampleSource, hreachable, by decide +kernel, by decide +kernel,
    viewInvariant_of_ofText Listing.ofText_sampleSource hreachable⟩

end DefUse
