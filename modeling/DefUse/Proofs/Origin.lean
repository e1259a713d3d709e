import DefUse.Proofs.LastWriter

/-!
# What an origin stands for

An origin stands for the nearest element at or around it that bears a tag of the pair in question. Nothing
stands for an origin that is absent, that the listing does not have, or that lies inside no such element.
The search from the end of a well-formed listing finds this element. The main statement is that an
operation depends on its origin through this element alone, and that a command without need of an origin
does not depend on it at all.
-/

namespace DefUse

namespace Listing

/-- The nearest element at or around an origin with a tag of the pair. Either the element at the origin
bears one, or the search goes on at the element around it. -/
inductive IsNearest (listing : Listing) (pair : TagPair) : ElementId → Element → Prop where
  | here {element : Element} (hmem : element ∈ listing.elements)
      (htag : pair.definition ∈ element.tags ∨ pair.use ∈ element.tags) :
      IsNearest listing pair element.id element
  | around {inner element : Element} {parent : ElementId} (hmem : inner ∈ listing.elements)
      (hdefinition : pair.definition ∉ inner.tags) (huse : pair.use ∉ inner.tags)
      (hparent : inner.parent = some parent) (h : IsNearest listing pair parent element) :
      IsNearest listing pair inner.id element

/-- The element that stands for an origin, which may be absent. -/
def StandsFor (listing : Listing) (pair : TagPair) (origin : Option ElementId) (element : Element) : Prop :=
  ∃ id, origin = some id ∧ listing.IsNearest pair id element

section Nearest

variable {listing : Listing} {pair : TagPair} {origin : ElementId} {element : Element}

theorem IsNearest.origin_mem (h : listing.IsNearest pair origin element) :
    origin ∈ listing.elements.map Element.id := by
  cases h with
  | here hmem _ => exact List.mem_map_of_mem hmem
  | around hmem _ _ _ _ => exact List.mem_map_of_mem hmem

/-- What the search finds among elements of the listing is the nearest one. -/
theorem isNearest_of_nearestIn {part : List Element} (hpart : ∀ member ∈ part, member ∈ listing.elements)
    (h : nearestIn pair origin part = some element) : listing.IsNearest pair origin element := by
  induction part generalizing origin with
  | nil => simp [nearestIn] at h
  | cons first earlier ih =>
    have hfirst : first ∈ listing.elements := hpart first List.mem_cons_self
    have hearlier : ∀ member ∈ earlier, member ∈ listing.elements :=
      fun member hmember ↦ hpart member (List.mem_cons_of_mem _ hmember)
    rw [nearestIn] at h
    by_cases hid : first.id = origin
    · rw [if_pos hid] at h
      subst hid
      by_cases hrole : (first.roleIn pair).isSome = true
      · rw [if_pos hrole] at h
        rw [← Option.some.inj h]
        exact .here hfirst ((first.roleIn_isSome_iff pair).1 hrole)
      · rw [if_neg hrole] at h
        have htags : ¬(pair.definition ∈ first.tags ∨ pair.use ∈ first.tags) :=
          mt (first.roleIn_isSome_iff pair).2 hrole
        rw [not_or] at htags
        cases hparent : first.parent with
        | none => simp [hparent] at h
        | some parent =>
          rw [hparent] at h
          exact .around hfirst htags.1 htags.2 hparent (ih hearlier h)
    · rw [if_neg hid] at h
      exact ih hearlier h

/-- The search through the first elements of a well-formed listing, last first, finds what is nearest to
each of them: the element around an element has been written before it. -/
theorem nearestIn_of_isNearest (hlisting : listing.WellFormed) {part after : List Element}
    (hpart : listing.elements = part.reverse ++ after) (hmem : origin ∈ part.map Element.id)
    (h : listing.IsNearest pair origin element) : nearestIn pair origin part = some element := by
  induction part generalizing origin after with
  | nil => simp at hmem
  | cons first earlier ih =>
    rw [List.reverse_cons, List.append_assoc, List.singleton_append] at hpart
    have hfirst : first ∈ listing.elements := by
      rw [hpart]
      exact List.mem_append_right _ List.mem_cons_self
    have hsame {other : Element} (hother : other ∈ listing.elements) (hid : first.id = other.id) :
        first = other :=
      List.inj_on_of_nodup_map hlisting.ids_nodup hfirst hother hid
    rw [nearestIn]
    by_cases hid : first.id = origin
    · rw [if_pos hid]
      cases h with
      | here helement htag =>
        obtain rfl := hsame helement hid
        rw [if_pos ((first.roleIn_isSome_iff pair).2 htag)]
      | around hinner hdefinition huse hparent h =>
        obtain rfl := hsame hinner hid
        have hrole : ¬(first.roleIn pair).isSome = true := by
          rw [first.roleIn_isSome_iff pair]
          exact not_or.2 ⟨hdefinition, huse⟩
        obtain ⟨outer, houter, rfl, _⟩ := hlisting.parents_earlier _ _ _ hpart _ hparent
        have hearlier : outer.id ∈ earlier.map Element.id :=
          List.mem_map_of_mem (List.mem_reverse.1 houter)
        rw [if_neg hrole, hparent]
        exact ih hpart hearlier h
    · rw [if_neg hid]
      have hearlier : origin ∈ earlier.map Element.id := by
        rw [List.map_cons, List.mem_cons] at hmem
        exact hmem.resolve_left (Ne.symm hid)
      exact ih hpart hearlier h

theorem nearest_eq_some_iff (hlisting : listing.WellFormed) :
    listing.nearest pair origin = some element ↔ listing.IsNearest pair origin element := by
  constructor
  · intro h
    exact isNearest_of_nearestIn (fun member hmember ↦ List.mem_reverse.1 hmember) h
  · intro h
    have hpart : listing.elements = listing.elements.reverse.reverse ++ [] := by simp
    have hmem : origin ∈ listing.elements.reverse.map Element.id := by
      simpa using h.origin_mem
    exact nearestIn_of_isNearest hlisting hpart hmem h

theorem bind_nearest_eq_some_iff (hlisting : listing.WellFormed) {origin : Option ElementId} :
    origin.bind (listing.nearest pair) = some element ↔ listing.StandsFor pair origin element := by
  unfold StandsFor
  rw [Option.bind_eq_some_iff]
  simp only [nearest_eq_some_iff hlisting]

/-- The same elements stand for two origins if and only if the search gives the same for both. -/
theorem standsFor_iff_bind_nearest_eq (hlisting : listing.WellFormed) {first second : Option ElementId} :
    (∀ element, listing.StandsFor pair first element ↔ listing.StandsFor pair second element) ↔
      first.bind (listing.nearest pair) = second.bind (listing.nearest pair) := by
  simp only [← bind_nearest_eq_some_iff hlisting]
  constructor
  · intro h
    exact Option.ext h
  · intro h element
    rw [h]

end Nearest

end Listing

/-- The pair of tags that a command is about. -/
def Command.pair : Command → Option TagPair
  | .goTo kind => some (.navigable kind)
  | .highlight _ kind => some (.fact kind)
  | .link => some .linked
  | .erase => none
  | .unslice => none

/-! ## What each part of an operation makes of its origin -/

section Selections

variable {listing : Listing}

theorem Operation.addresses_eq_map (kind : FactKind) (origin : Option ElementId) :
    Operation.addresses listing kind origin =
      (origin.bind (listing.nearest (.fact kind))).map fun element ↦ .ofList element.addresses := by
  cases origin with
  | none => rfl
  | some id =>
    simp only [Operation.addresses, Listing.resolve, Option.bind_some, Option.map_map]
    rfl

theorem goToDefinition_congr {kind : NavKind} {first second : ElementId} (duration : UInt64) (view : View)
    (h : listing.nearest (.navigable kind) first = listing.nearest (.navigable kind) second) :
    goToDefinition listing duration kind first view =
      goToDefinition listing duration kind second view := by
  simp only [goToDefinition, Listing.resolve, h]

theorem showLinked_congr {first second : ElementId} (view : View)
    (h : listing.nearest .linked first = listing.nearest .linked second) :
    showLinked listing first view = showLinked listing second view := by
  simp only [showLinked, h]

end Selections

namespace Operation

section Apply

variable {listing : Listing} (duration : UInt64) (view : View)

/-- What treats an origin for which a search finds nothing like an absent one, and origins for which it
finds the same alike, depends on what the search finds alone. -/
theorem eq_of_bind_eq {α : Type} {search : ElementId → Option Element} (result : Option ElementId → α)
    (hnone : ∀ id, search id = none → result (some id) = result none)
    (hsome : ∀ id other, search id = search other → result (some id) = result (some other))
    {first second : Option ElementId} (h : first.bind search = second.bind search) :
    result first = result second := by
  cases first with
  | none =>
    cases second with
    | none => rfl
    | some other => exact (hnone other h.symm).symm
  | some id =>
    cases second with
    | none => exact hnone id h
    | some other => exact hsome id other h

theorem apply_goTo_congr {kind : NavKind} {first second : Option ElementId}
    (h : first.bind (listing.nearest (.navigable kind)) = second.bind (listing.nearest (.navigable kind))) :
    apply listing duration ⟨.goTo kind, first⟩ view = apply listing duration ⟨.goTo kind, second⟩ view := by
  refine eq_of_bind_eq (fun origin ↦ apply listing duration ⟨.goTo kind, origin⟩ view) ?_ ?_ h
  · intro id hnone
    have hresolve : listing.resolve (.navigable kind) id = none := by
      rw [Listing.resolve, hnone, Option.map_none]
    exact congrArg Prod.fst (goToDefinition_unresolved duration view hresolve)
  · intro id other hsame
    exact congrArg Prod.fst (goToDefinition_congr duration view hsame)

theorem apply_link_congr {first second : Option ElementId}
    (h : first.bind (listing.nearest .linked) = second.bind (listing.nearest .linked)) :
    apply listing duration ⟨.link, first⟩ view = apply listing duration ⟨.link, second⟩ view := by
  refine eq_of_bind_eq (fun origin ↦ apply listing duration ⟨.link, origin⟩ view) ?_ ?_ h
  · intro id hnone
    simp only [apply, showLinked, hnone]
  · intro id other hsame
    exact congrArg Transition.to (showLinked_congr view hsame)

/-- Origins for which the search gives the same make the same transition. -/
theorem apply_eq_of_bind_nearest_eq {command : Command} {first second : Option ElementId}
    (h : ∀ pair, command.pair = some pair →
      first.bind (listing.nearest pair) = second.bind (listing.nearest pair)) :
    apply listing duration ⟨command, first⟩ view = apply listing duration ⟨command, second⟩ view := by
  cases command with
  | erase => rfl
  | unslice => rfl
  | highlight mode kind =>
    have haddresses : addresses listing kind first = addresses listing kind second := by
      rw [addresses_eq_map, addresses_eq_map, h (.fact kind) rfl]
    cases mode with
    | all => rfl
    | selected => simp only [apply, haddresses]
    | slice => simp only [apply, haddresses]
  | goTo kind => exact apply_goTo_congr duration view (h (.navigable kind) rfl)
  | link => exact apply_link_congr duration view (h .linked rfl)

theorem apply_eq_of_needsOrigin_eq_false {command : Command} (h : command.needsOrigin = false)
    (first second : Option ElementId) :
    apply listing duration ⟨command, first⟩ view = apply listing duration ⟨command, second⟩ view := by
  cases command with
  | erase => rfl
  | unslice => rfl
  | highlight mode kind =>
    cases mode with
    | all => rfl
    | selected => simp [Command.needsOrigin] at h
    | slice => simp [Command.needsOrigin] at h
  | goTo kind => simp [Command.needsOrigin] at h
  | link => simp [Command.needsOrigin] at h

end Apply

end Operation

/-- A bound command keeps an origin of the listing if it needs one, and has none otherwise. -/
theorem Command.bind_eq_ok_iff {listing : Listing} {command : Command} {origin : Option ElementId}
    {operation : Operation} :
    command.bind listing origin = .ok operation ↔
      command.needsOrigin = false ∧ operation = ⟨command, none⟩ ∨
      command.needsOrigin = true ∧ operation = ⟨command, origin⟩ ∧
        (origin.bind listing.element?).isSome = true := by
  unfold Command.bind
  cases hneeds : command.needsOrigin with
  | false => simp [eq_comm (a := operation)]
  | true =>
    cases origin with
    | none => simp
    | some id =>
      cases hfound : listing.element? id with
      | none => simp [hfound]
      | some element => simp [hfound, eq_comm (a := operation)]

namespace Operation

/-- In a well-formed listing an operation depends on its origin through the element that stands for it. A
command that needs no origin makes the same transition from every origin, so that binding a command, which
drops such origins, changes nothing. -/
theorem apply_eq_of_same_selection {listing : Listing} (hlisting : listing.WellFormed)
    (command : Command) :
    (∀ first second : Option ElementId,
      (∀ pair, command.pair = some pair → ∀ element,
        listing.StandsFor pair first element ↔ listing.StandsFor pair second element) →
      ∀ duration view, apply listing duration ⟨command, first⟩ view =
        apply listing duration ⟨command, second⟩ view) ∧
    (command.needsOrigin = false → ∀ (first second : Option ElementId) duration view,
      apply listing duration ⟨command, first⟩ view = apply listing duration ⟨command, second⟩ view) ∧
    ∀ origin operation, command.bind listing origin = .ok operation → ∀ duration view,
      apply listing duration operation view = apply listing duration ⟨command, origin⟩ view := by
  refine ⟨fun first second h duration view ↦ ?_, fun h first second duration view ↦ ?_,
    fun origin operation h duration view ↦ ?_⟩
  · refine apply_eq_of_bind_nearest_eq duration view fun pair hpair ↦ ?_
    exact (Listing.standsFor_iff_bind_nearest_eq hlisting).1 (h pair hpair)
  · exact apply_eq_of_needsOrigin_eq_false duration view h first second
  · rcases Command.bind_eq_ok_iff.1 h with ⟨hneeds, rfl⟩ | ⟨_, rfl, _⟩
    · exact apply_eq_of_needsOrigin_eq_false duration view hneeds none origin
    · rfl

/-- In the sample the use stands for the element inside it, nothing is linked to the second definition or
to an id that the listing does not have, and an origin for all facts of a kind is dropped. -/
theorem apply_eq_of_same_selection_sample :
    Listing.sampleListing.WellFormed ∧
    (∀ element, Listing.sampleListing.StandsFor (.fact .binding) (some "g") element ↔
      some element = Listing.sampleListing.element? "u") ∧
    (∀ view, apply Listing.sampleListing 200 ⟨.highlight .slice .binding, some "g"⟩ view =
      apply Listing.sampleListing 200 ⟨.highlight .slice .binding, some "u"⟩ view) ∧
    (∀ view, apply Listing.sampleListing 200 ⟨.link, some "w"⟩ view =
      apply Listing.sampleListing 200 ⟨.link, some "absent"⟩ view) ∧
    Command.needsOrigin (.highlight .all .value) = false ∧
    (∀ view, apply Listing.sampleListing 200 ⟨.highlight .all .value, some "d"⟩ view =
      apply Listing.sampleListing 200 ⟨.highlight .all .value, none⟩ view) ∧
    Command.bind Listing.sampleListing .unslice (some "d") = .ok ⟨.unslice, none⟩ ∧
    ∀ view, apply Listing.sampleListing 200 ⟨.unslice, none⟩ view =
      apply Listing.sampleListing 200 ⟨.unslice, some "d"⟩ view := by
  have hlisting : Listing.sampleListing.WellFormed := .ofText Listing.ofText_sampleSource
  have hsame {command : Command} {first second : Option ElementId}
      (h : ∀ pair, command.pair = some pair →
        first.bind (Listing.sampleListing.nearest pair) = second.bind (Listing.sampleListing.nearest pair))
      (view : View) : apply Listing.sampleListing 200 ⟨command, first⟩ view =
        apply Listing.sampleListing 200 ⟨command, second⟩ view :=
    (apply_eq_of_same_selection hlisting command).1 first second
      (fun pair hpair ↦ (Listing.standsFor_iff_bind_nearest_eq hlisting).2 (h pair hpair)) 200 view
  refine ⟨hlisting, fun element ↦ ?_, hsame fun pair hpair ↦ ?_, hsame fun pair hpair ↦ ?_, rfl,
    (apply_eq_of_same_selection hlisting _).2.1 rfl _ _ 200, rfl,
    (apply_eq_of_same_selection hlisting .unslice).2.2 (some "d") _ rfl 200⟩
  · have hnearest : (some "g").bind (Listing.sampleListing.nearest (.fact .binding)) =
        Listing.sampleListing.element? "u" := by decide
    rw [← Listing.bind_nearest_eq_some_iff hlisting, hnearest, eq_comm]
  · obtain rfl := Option.some.inj hpair
    decide
  · obtain rfl := Option.some.inj hpair
    decide

end Operation

end DefUse
