import DefUse.Proofs.Ambiguity
import DefUse.Proofs.LastWriter

/-!
# Scrolling and hidden rows

Only an unambiguous navigation asks to scroll. It asks for an element of the listing in the row of that
element, and leaves the rows as they are. The row can be hidden then: the main statement says that it is
hidden exactly if the last operation before to write the rows was a slice, or an ambiguous navigation, that
left it out. It is proved from what one operation does to one row, along the run. A run whose scroll leads
to a hidden row stands at the end.
-/

namespace DefUse

theorem View.isVisible_eq_false_iff (view : View) (row : Nat) :
    view.isVisible row = false ↔ row ∈ view.hidden := by
  rw [View.isVisible, Bool.not_eq_false', Std.ExtTreeSet.contains_iff_mem]

/-- With all rows hidden, those that are not shown again stay hidden. -/
theorem View.mem_hidden_showRows_of_hidesAll {listing : Listing} {view : View} {row : Nat}
    (hrow : row ∈ listing.rows.map Row.index)
    (hall : view.hidden = Std.ExtTreeSet.ofList (listing.rows.map Row.index)) (rows : List Nat) :
    row ∈ (view.showRows rows).hidden ↔ row ∉ rows := by
  have hhidden : row ∈ view.hidden := by
    rw [hall, ← View.hidden_hideAllRows listing view]
    exact (View.mem_hidden_hideAllRows listing view row).2 hrow
  rw [View.mem_hidden_showRows]
  exact ⟨And.right, fun h ↦ ⟨hhidden, h⟩⟩

namespace Operation

/-- The operation comes from binding a command. -/
def Bound (listing : Listing) (operation : Operation) : Prop :=
  ∃ command origin, Command.bind listing command origin = .ok operation

/-! ## Steps of a run -/

section Steps

variable (listing : Listing) (duration : UInt64)

theorem view_replay (operations : List Operation) :
    (replay listing duration operations).view =
      operations.foldl (fun view operation ↦ (operation.apply listing duration view).view) .initial := by
  induction operations using List.reverseRecOn with
  | nil => rfl
  | append_singleton operations operation ih =>
    rw [replay_concat, ih, List.foldl_append]
    rfl

/-- The transition at a place of a run starts from the view that the operations before it have made. -/
theorem getElem?_trace (view : View) (operations : List Operation) (place : Nat) :
    (trace listing duration view operations)[place]? =
      operations[place]?.map fun operation ↦
        (operation, operation.apply listing duration ((operations.take place).foldl
          (fun view operation ↦ (operation.apply listing duration view).view) view)) := by
  induction operations generalizing view place with
  | nil => rfl
  | cons operation rest ih =>
    cases place with
    | zero => rfl
    | succ place => exact ih (operation.apply listing duration view).view place

theorem getElem?_trace_initial (operations : List Operation) (place : Nat) :
    (trace listing duration .initial operations)[place]? =
      operations[place]?.map fun operation ↦
        (operation,
          operation.apply listing duration (replay listing duration (operations.take place)).view) := by
  rw [getElem?_trace, view_replay]

/-- The transitions of a trace are those that the replays of the first operations end with. -/
theorem getElem?_trace_replay (operations : List Operation) (place : Nat) :
    (trace listing duration .initial operations)[place]? =
      operations[place]?.map fun operation ↦
        (operation, replay listing duration (operations.take (place + 1))) := by
  rw [getElem?_trace_initial]
  cases hoperation : operations[place]? with
  | none => rfl
  | some operation =>
    rw [Option.map_some, Option.map_some, List.take_add_one, hoperation, Option.toList_some, replay_concat]

end Steps

/-! ## Which rows an operation hides -/

section Rows

variable {listing : Listing} {duration : UInt64} {row : Nat}

/-- The operation shows some rows alone, and not this one. It is a slice, and no related fact lies in the
row, or it is an ambiguous navigation, and neither the selection nor a target lies there. -/
def HidesRow (listing : Listing) (row : Nat) (operation : Operation) : Prop :=
  (∃ kind selection, operation.command = .highlight .slice kind ∧
    operation.origin.bind (listing.resolve (.fact kind)) = some selection ∧
    ∀ element ∈ relatedFacts listing kind selection.addresses, element.row ≠ row) ∨
  ∃ kind selection, operation.command = .goTo kind ∧
    operation.origin.bind (listing.resolve (.navigable kind)) = some selection ∧
    agree (targets listing kind selection.addresses) = false ∧ selection.element.row ≠ row ∧
    ∀ element ∈ targets listing kind selection.addresses, element.row ≠ row

theorem mem_hidden_sliceToRelated (hrow : row ∈ listing.rows.map Row.index) (kind : FactKind)
    (addresses : AddressSet) (view : View) :
    row ∈ (sliceToRelated listing kind (some addresses) view).hidden ↔
      ∀ element ∈ relatedFacts listing kind addresses, element.row ≠ row := by
  rw [sliceToRelated, View.mem_hidden_showRows_of_hidesAll hrow (View.hidden_markPair ..)]
  simp

theorem mem_hidden_goToDefinition {kind : NavKind} {origin : ElementId} {selection : Selection}
    (hrow : row ∈ listing.rows.map Row.index)
    (hresolve : listing.resolve (.navigable kind) origin = some selection)
    (hagree : agree (targets listing kind selection.addresses) = false) (view : View) :
    row ∈ (goToDefinition listing duration kind origin view).1.view.hidden ↔
      selection.element.row ≠ row ∧
        ∀ element ∈ targets listing kind selection.addresses, element.row ≠ row := by
  rw [goToDefinition_ambiguous duration view hresolve hagree, Transition.to,
    View.mem_hidden_showRows_of_hidesAll hrow (View.hidden_hideAllRows ..)]
  simp [eq_comm (a := row)]

/-- A slice leaves the rows alone, or something stands for its origin. -/
theorem leavesRows_or_slices (kind : FactKind) (origin : Option ElementId) :
    LeavesRows listing duration ⟨.highlight .slice kind, origin⟩ ∨
      ∃ selection, origin.bind (listing.resolve (.fact kind)) = some selection := by
  cases hresolve : origin.bind (listing.resolve (.fact kind)) with
  | some selection => exact .inr ⟨selection, rfl⟩
  | none =>
    have hnowhere : Unresolved listing (.fact kind) ⟨.highlight .slice kind, origin⟩ := by
      rw [Unresolved, ← addresses_eq_none_iff, addresses, hresolve, Option.map_none]
    exact .inl (.inr (.inr (.inl ⟨kind, rfl, hnowhere⟩)))

/-- A navigation leaves the rows alone, or its targets disagree. -/
theorem leavesRows_or_disagree (kind : NavKind) (origin : Option ElementId) :
    LeavesRows listing duration ⟨.goTo kind, origin⟩ ∨
      ∃ id selection, origin = some id ∧ listing.resolve (.navigable kind) id = some selection ∧
        agree (targets listing kind selection.addresses) = false := by
  cases origin with
  | none => exact .inl (.inr (.inr (.inr ⟨kind, rfl, by simp [navigate]⟩)))
  | some id =>
    have hleaves (h : ∀ view, (goToDefinition listing duration kind id view).2 ≠ .ambiguous) :
        LeavesRows listing duration ⟨.goTo kind, some id⟩ :=
      .inr (.inr (.inr ⟨kind, rfl, fun view hview ↦ h view (Option.some.inj hview)⟩))
    cases hresolve : listing.resolve (.navigable kind) id with
    | none =>
      refine .inl (hleaves fun view ↦ ?_)
      rw [goToDefinition_unresolved duration view hresolve]
      simp
    | some selection =>
      cases hagree : agree (targets listing kind selection.addresses) with
      | false => exact .inr ⟨id, selection, rfl, hresolve, hagree⟩
      | true =>
        refine .inl (hleaves fun view ↦ ?_)
        rw [Ne, goToDefinition_eq_ambiguous_iff hresolve, ← agree_eq_false_iff, hagree]
        simp

/-- An operation that hides a row does not leave the rows alone. -/
theorem HidesRow.not_leavesRows {operation : Operation} (h : operation.HidesRow listing row) :
    ¬operation.LeavesRows listing duration := by
  rcases operation with ⟨command, origin⟩
  rcases h with ⟨kind, selection, hcommand, hresolve, _⟩ | ⟨kind, selection, hcommand, hresolve, hagree, _⟩
  · obtain rfl : command = .highlight .slice kind := hcommand
    have hresolved : ¬Unresolved listing (.fact kind) ⟨.highlight .slice kind, origin⟩ := by
      rw [Unresolved, ← addresses_eq_none_iff, addresses, hresolve]
      simp
    simpa [LeavesRows] using hresolved
  · obtain rfl : command = .goTo kind := hcommand
    obtain ⟨id, rfl, hid⟩ := Option.bind_eq_some_iff.1 hresolve
    have hambiguous : (goToDefinition listing duration kind id .initial).2 = .ambiguous := by
      rw [goToDefinition_ambiguous duration .initial hid hagree]
    simpa [LeavesRows, navigate] using ⟨View.initial, hambiguous⟩

/-- What one operation does to one row of the listing: it hides the row, it shows the row, or it leaves all
rows as they are. -/
theorem mem_hidden_apply_iff (hrow : row ∈ listing.rows.map Row.index) (operation : Operation)
    (view : View) :
    row ∈ (operation.apply listing duration view).view.hidden ↔
      operation.HidesRow listing row ∨
        operation.LeavesRows listing duration ∧ row ∈ view.hidden := by
  by_cases hleaves : operation.LeavesRows listing duration
  · have hkeeps := (keeps_hidden_iff listing duration operation).2 hleaves view
    rw [hkeeps]
    exact ⟨fun h ↦ .inr ⟨hleaves, h⟩,
      fun h ↦ (h.resolve_left fun hhides ↦ hhides.not_leavesRows hleaves).2⟩
  simp only [hleaves, false_and, or_false]
  -- The operation writes the rows: it shows all of them, or it slices.
  have hempty : row ∉ View.initial.hidden := Std.ExtTreeSet.not_mem_empty
  rcases operation with ⟨command, origin⟩
  cases command with
  | erase => exact absurd (.inl rfl) hleaves
  | link => exact absurd (.inr (.inl rfl)) hleaves
  | unslice => simp [apply, Transition.to, HidesRow]
  | highlight mode kind =>
    cases mode with
    | all => simpa [apply, Transition.to, showAll, HidesRow] using hempty
    | selected =>
      cases haddresses : addresses listing kind origin with
      | none => simpa [apply, haddresses, Transition.to, HidesRow] using hempty
      | some set => simpa [apply, haddresses, Transition.to, showRelated, HidesRow] using hempty
    | slice =>
      obtain ⟨selection, hresolve⟩ := (leavesRows_or_slices kind origin).resolve_left hleaves
      have haddresses : addresses listing kind origin = some selection.addresses := by
        rw [addresses, hresolve, Option.map_some]
      simp only [apply, haddresses, Transition.to]
      rw [mem_hidden_sliceToRelated hrow]
      simp [HidesRow, hresolve]
  | goTo kind =>
    obtain ⟨id, selection, rfl, hresolve, hagree⟩ :=
      (leavesRows_or_disagree kind origin).resolve_left hleaves
    simp only [apply]
    rw [mem_hidden_goToDefinition hrow hresolve hagree]
    simp [HidesRow, hresolve, hagree]

/-- The last of the operations that writes the rows hides this one. -/
def LastHidesRow (listing : Listing) (duration : UInt64) (row : Nat) (operations : List Operation) : Prop :=
  ∃ before operation after, operations = before ++ operation :: after ∧
    operation.HidesRow listing row ∧ ∀ later ∈ after, later.LeavesRows listing duration

theorem lastHidesRow_concat_iff (operations : List Operation) (operation : Operation) :
    LastHidesRow listing duration row (operations ++ [operation]) ↔
      operation.HidesRow listing row ∨
        operation.LeavesRows listing duration ∧ LastHidesRow listing duration row operations := by
  constructor
  · rintro ⟨before, writer, after, heq, hhides, hafter⟩
    rcases split_append heq with ⟨rest, rfl⟩ | ⟨start, rfl, hlast⟩
    · obtain rfl : rest ++ [operation] = after := by simpa using heq
      rw [List.forall_mem_append, List.forall_mem_singleton] at hafter
      exact .inr ⟨hafter.2, before, writer, rest, rfl, hhides, hafter.1⟩
    · rcases List.singleton_eq_append_iff.1 hlast with ⟨_, hwriter⟩ | ⟨_, hnil⟩
      · obtain rfl : writer = operation := by simpa using congrArg List.head? hwriter
        exact .inl hhides
      · simp at hnil
  · rintro (hhides | ⟨hleaves, before, writer, after, rfl, hhides, hafter⟩)
    · exact ⟨operations, operation, [], rfl, hhides, by simp⟩
    · refine ⟨before, writer, after ++ [operation], by simp, hhides, ?_⟩
      rw [List.forall_mem_append, List.forall_mem_singleton]
      exact ⟨hafter, hleaves⟩

/-- What a whole run does to one row. -/
theorem mem_hidden_replay_iff (hrow : row ∈ listing.rows.map Row.index) (operations : List Operation) :
    row ∈ (replay listing duration operations).view.hidden ↔
      LastHidesRow listing duration row operations := by
  induction operations using List.reverseRecOn with
  | nil =>
    have hempty : row ∉ (replay listing duration []).view.hidden := Std.ExtTreeSet.not_mem_empty
    simpa [LastHidesRow] using hempty
  | append_singleton operations operation ih =>
    rw [replay_concat, mem_hidden_apply_iff hrow, ih, lastHidesRow_concat_iff]

end Rows

/-! ## What asks to scroll -/

section Scrolls

variable {listing : Listing} {duration : UInt64} {operation : Operation} {view : View} {scroll : Scroll}

/-- Only going to a definition asks to scroll, namely to its first target, and then it keeps the rows. -/
theorem exists_target_of_scroll (h : (operation.apply listing duration view).scroll = some scroll) :
    ∃ kind addresses first rest, targets listing kind addresses = first :: rest ∧
      scroll = ⟨duration, first.id, first.row⟩ ∧
      (operation.apply listing duration view).view.hidden = view.hidden := by
  rcases operation with ⟨command, origin⟩
  cases command with
  | erase => simp [apply, Transition.to] at h
  | unslice => simp [apply, Transition.to] at h
  | highlight mode kind =>
    cases mode with
    | all => simp [apply, Transition.to] at h
    | selected =>
      cases haddresses : addresses listing kind origin <;>
        simp [apply, haddresses, Transition.to] at h
    | slice => simp [apply, Transition.to] at h
  | link => cases origin <;> simp [apply, Transition.to] at h
  | goTo kind =>
    cases origin with
    | none => simp [apply, Transition.to] at h
    | some id =>
      simp only [apply] at h ⊢
      rcases outcome_cases listing kind id with
        hresolve | ⟨selection, hresolve, hfound | ⟨first, rest, hfound, hagree⟩ | hagree⟩
      · simp [goToDefinition_unresolved duration view hresolve, Transition.to] at h
      · simp [goToDefinition_noTarget duration view hresolve hfound, Transition.to] at h
      · rw [goToDefinition_unique duration view hresolve hfound hagree] at h ⊢
        exact ⟨kind, selection.addresses, first, rest, hfound, (Option.some.inj h).symm,
          hidden_markTargets listing kind selection view⟩
      · simp [goToDefinition_ambiguous duration view hresolve hagree, Transition.to] at h

theorem exists_mem_of_scroll (h : (operation.apply listing duration view).scroll = some scroll) :
    ∃ element ∈ listing.elements, element.id = scroll.element ∧ element.row = scroll.row := by
  obtain ⟨kind, addresses, first, rest, hfound, rfl, _⟩ := exists_target_of_scroll h
  have hfirst : first ∈ targets listing kind addresses := by
    rw [hfound]
    exact List.mem_cons_self
  exact ⟨first, (mem_targets.1 hfirst).1, rfl, rfl⟩

theorem hidden_eq_of_scroll (h : (operation.apply listing duration view).scroll = some scroll) :
    (operation.apply listing duration view).view.hidden = view.hidden := by
  obtain ⟨_, _, _, _, _, _, hhidden⟩ := exists_target_of_scroll h
  exact hhidden

end Scrolls

/-! ## A sample -/

/-- A definition, and in the next row a use of it beside a use of something else. -/
def crowdedSource : String :=
  "\x7b\"rows\":[\x7b\"elements\":[" ++
    "\x7b\"id\":\"d\",\"class\":\"ENV-DEF DENV-DEF\",\"address\":\"x\"\x7d]\x7d," ++
  "\x7b\"elements\":[\x7b\"id\":\"u\",\"class\":\"ENV-USE DENV-USE\",\"address\":\"x\"\x7d," ++
    "\x7b\"id\":\"v\",\"class\":\"ENV-USE\",\"address\":\"y\"\x7d]\x7d]\x7d"

def crowdedListing : Listing :=
  .indexed [⟨0, none, "", ["d"]⟩, ⟨1, none, "", ["u", "v"]⟩]
    [⟨"d", none, 0, "", ["x"], [.fact .binding .definition, .navigable .binding .definition]⟩,
     ⟨"u", none, 1, "", ["x"], [.fact .binding .use, .navigable .binding .use]⟩,
     ⟨"v", none, 1, "", ["y"], [.fact .binding .use]⟩]

theorem ofText_crowdedSource : Listing.ofText crowdedSource = .ok crowdedListing := by
  decide +kernel

/-- A slice from the other use, which hides the definition, and then a navigation to it. -/
def crowdedRun : List Operation := [⟨.highlight .slice .binding, some "v"⟩, ⟨.goTo .binding, some "u"⟩]

/-! ## Scrolls along a run -/

/-- A scroll that a step of a run asks for leads to an element of the listing, in the row of the element.
That row is in sight after the step unless the last of the operations before that wrote the rows, a slice
or an ambiguous navigation, hid it. -/
theorem scroll_leads_to_visible_row_iff {source : String} {listing : Listing}
    (hread : Listing.ofText source = .ok listing) {duration : UInt64} {operations : List Operation}
    {place : Nat} {operation : Operation} {transition : Transition} {scroll : Scroll}
    (hstep : (trace listing duration .initial operations)[place]? = some (operation, transition))
    (hscroll : transition.scroll = some scroll) :
    (∃ element ∈ listing.elements, element.id = scroll.element ∧ element.row = scroll.row ∧
      ∃ row ∈ listing.rows, row.index = scroll.row ∧ scroll.element ∈ row.elements) ∧
    (transition.view.isVisible scroll.row = true ↔
      ¬LastHidesRow listing duration scroll.row (operations.take place)) := by
  rw [getElem?_trace_initial] at hstep
  obtain ⟨_, _, hpair⟩ := Option.map_eq_some_iff.1 hstep
  obtain ⟨rfl, rfl⟩ := Prod.mk.inj hpair
  obtain ⟨element, helement, hid, helementRow⟩ := exists_mem_of_scroll hscroll
  obtain ⟨row, hrow, hindex, hlists⟩ :=
    (Listing.WellFormed.ofText hread).element_row element helement
  have hscrollRow : row.index = scroll.row := hindex.trans helementRow
  have hmem : scroll.row ∈ listing.rows.map Row.index := hscrollRow ▸ List.mem_map_of_mem hrow
  refine ⟨⟨element, helement, hid, helementRow, row, hrow, hscrollRow, ?_⟩, ?_⟩
  · rw [← hid]
    exact (hlists row hrow).2 rfl
  · rw [← Bool.not_eq_false, View.isVisible_eq_false_iff, hidden_eq_of_scroll hscroll,
      mem_hidden_replay_iff hmem]

/-- The scroll of the run leads to the hidden row of the definition. Without the slice the row is in sight. -/
theorem scroll_leads_to_visible_row_iff_crowded :
    Listing.ofText crowdedSource = .ok crowdedListing ∧
    (∃ transition scroll,
      (trace crowdedListing 200 .initial crowdedRun)[1]? = some (⟨.goTo .binding, some "u"⟩, transition) ∧
      transition.scroll = some scroll ∧ transition.view.isVisible scroll.row = false ∧
      LastHidesRow crowdedListing 200 scroll.row [⟨.highlight .slice .binding, some "v"⟩]) ∧
    ∃ transition scroll,
      (trace crowdedListing 200 .initial [⟨.goTo .binding, some "u"⟩])[0]? =
        some (⟨.goTo .binding, some "u"⟩, transition) ∧
      transition.scroll = some scroll ∧ transition.view.isVisible scroll.row = true := by
  let sliced := apply crowdedListing 200 ⟨.highlight .slice .binding, some "v"⟩ .initial
  let reached := apply crowdedListing 200 ⟨.goTo .binding, some "u"⟩ sliced.view
  let direct := apply crowdedListing 200 ⟨.goTo .binding, some "u"⟩ .initial
  have hscroll : reached.scroll = some ⟨200, "d", 0⟩ := by decide +kernel
  have hhidden : reached.view.isVisible 0 = false := by decide +kernel
  have hdirect : direct.scroll = some ⟨200, "d", 0⟩ := by decide +kernel
  refine ⟨ofText_crowdedSource, ⟨reached, _, rfl, hscroll, hhidden, ?_⟩, direct, _, rfl, hdirect, ?_⟩
  · have hstep : (trace crowdedListing 200 .initial crowdedRun)[1]? =
        some (⟨.goTo .binding, some "u"⟩, reached) := rfl
    have hvisible := (scroll_leads_to_visible_row_iff ofText_crowdedSource hstep hscroll).2
    by_contra hlast
    rw [hvisible.2 hlast] at hhidden
    contradiction
  · have hstep : (trace crowdedListing 200 .initial [⟨.goTo .binding, some "u"⟩])[0]? =
        some (⟨.goTo .binding, some "u"⟩, direct) := rfl
    refine (scroll_leads_to_visible_row_iff ofText_crowdedSource hstep hdirect).2.2 ?_
    simp [LastHidesRow]

/-- Not every scroll of a run of bound operations leads to a row in sight. -/
theorem scroll_leads_to_hidden_row :
    ¬∀ (source : String) (listing : Listing), Listing.ofText source = .ok listing →
      ∀ (duration : UInt64) (operations : List Operation),
        (∀ operation ∈ operations, operation.Bound listing) →
        ∀ step ∈ trace listing duration .initial operations, ∀ scroll, step.2.scroll = some scroll →
          (∃ element ∈ listing.elements, element.id = scroll.element ∧ element.row = scroll.row) ∧
          step.2.view.isVisible scroll.row = true := by
  intro hall
  have hbound : ∀ operation ∈ crowdedRun, operation.Bound crowdedListing := by
    rw [crowdedRun, List.forall_mem_cons, List.forall_mem_singleton]
    exact ⟨⟨.highlight .slice .binding, some "v", rfl⟩, ⟨.goTo .binding, some "u", rfl⟩⟩
  let sliced := apply crowdedListing 200 ⟨.highlight .slice .binding, some "v"⟩ .initial
  let reached := apply crowdedListing 200 ⟨.goTo .binding, some "u"⟩ sliced.view
  have hstep : (⟨.goTo .binding, some "u"⟩, reached) ∈ trace crowdedListing 200 .initial crowdedRun :=
    List.mem_cons_of_mem _ List.mem_cons_self
  have hscroll : reached.scroll = some ⟨200, "d", 0⟩ := by decide +kernel
  have hhidden : reached.view.isVisible 0 = false := by decide +kernel
  have hvisible := (hall _ _ ofText_crowdedSource 200 crowdedRun hbound _ hstep _ hscroll).2
  rw [hhidden] at hvisible
  contradiction

end Operation

end DefUse
