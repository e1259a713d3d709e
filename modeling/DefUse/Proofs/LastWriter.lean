import DefUse.Operation
import DefUse.Proofs.Navigation
import Mathlib.Data.List.Induction

/-!
# The last writer wins

To each part of a view, its marks and its hidden rows, an operation does one of two things, whatever the
view: it keeps the part, or it writes one value in its place. The effect of an operation says which, and
the main statement follows from the effects: a run ends with what the last writers of each part have
written, and to repeat an operation changes nothing.
-/

namespace DefUse

/-- The marks and the hidden rows that are written, where they are not kept, and the scrolling that is
asked for. -/
structure Effect where
  marks : Option (Std.ExtTreeMap ElementId Mark)
  hidden : Option (Std.ExtTreeSet Nat)
  scroll : Option Scroll

/-- The transition that an effect makes from a view. -/
def Effect.on (effect : Effect) (view : View) : Transition :=
  ⟨⟨effect.marks.getD view.marks, effect.hidden.getD view.hidden⟩, effect.scroll⟩

theorem View.eq_of_parts {view other : View} (hmarks : view.marks = other.marks)
    (hhidden : view.hidden = other.hidden) : view = other := by
  rcases view with ⟨marks, hidden⟩
  rcases other with ⟨otherMarks, otherHidden⟩
  rw [View.mk.injEq]
  exact ⟨hmarks, hhidden⟩

/-- An effect that has been made once changes nothing more. -/
theorem Effect.on_view_on (effect : Effect) (view : View) :
    effect.on (effect.on view).view = effect.on view := by
  rcases effect with ⟨marks, hidden, scroll⟩
  cases marks <;> cases hidden <;> rfl

/-! ## The effect of each operation -/

section Effects

variable (listing : Listing)

theorem marks_markTargets (kind : NavKind) (selection : Selection) (view : View) :
    (view.markTargets listing kind selection).marks =
      (View.initial.markTargets listing kind selection).marks := by
  simp only [View.markTargets, View.marks_markAll, View.marks_mark, View.marks_clearMarks]

theorem hidden_markTargets (kind : NavKind) (selection : Selection) (view : View) :
    (view.markTargets listing kind selection).hidden = view.hidden := by
  rw [View.markTargets, View.hidden_markAll, View.hidden_mark, View.hidden_clearMarks]

/-- Going to a definition always writes the marks. It writes the rows only if it is ambiguous. -/
theorem goToDefinition_effect (duration : UInt64) (kind : NavKind) (origin : ElementId) :
    ∃ (effect : Effect) (navigation : Navigation),
      (∀ view, goToDefinition listing duration kind origin view = (effect.on view, navigation)) ∧
      effect.marks ≠ none ∧ (effect.hidden = none ↔ navigation ≠ .ambiguous) := by
  have hview (selection : Selection) (view : View) : view.markTargets listing kind selection =
      ⟨(View.initial.markTargets listing kind selection).marks, view.hidden⟩ :=
    View.eq_of_parts (marks_markTargets listing kind selection view)
      (hidden_markTargets listing kind selection view)
  rcases outcome_cases listing kind origin with
    hresolve | ⟨selection, hresolve, hfound | ⟨first, rest, hfound, hagree⟩ | hagree⟩
  · exact ⟨⟨some ∅, none, none⟩, .unresolved,
      fun view ↦ goToDefinition_unresolved duration view hresolve, by simp, by simp⟩
  · refine ⟨⟨some (View.initial.markTargets listing kind selection).marks, none, none⟩, .noTarget,
      fun view ↦ ?_, by simp, by simp⟩
    rw [goToDefinition_noTarget duration view hresolve hfound, hview]
    rfl
  · refine ⟨⟨some (View.initial.markTargets listing kind selection).marks, none,
      some ⟨duration, first.id, first.row⟩⟩, .unique, fun view ↦ ?_, by simp, by simp⟩
    rw [goToDefinition_unique duration view hresolve hfound hagree, hview]
    rfl
  · let rows := selection.element.row :: (targets listing kind selection.addresses).map Element.row
    have hhidden (view : View) :
        (((view.markTargets listing kind selection).hideAllRows listing).showRows rows).hidden =
          ((View.initial.hideAllRows listing).showRows rows).hidden := by
      rw [View.hidden_showRows, View.hidden_hideAllRows, View.hidden_showRows, View.hidden_hideAllRows]
    refine ⟨⟨some (View.initial.markTargets listing kind selection).marks,
      some ((View.initial.hideAllRows listing).showRows rows).hidden, none⟩, .ambiguous,
      fun view ↦ ?_, by simp, by simp⟩
    rw [goToDefinition_ambiguous duration view hresolve hagree]
    refine congrArg (fun next ↦ (Transition.to next, Navigation.ambiguous))
      (View.eq_of_parts ?_ (hhidden view))
    rw [View.marks_showRows, View.marks_hideAllRows, marks_markTargets]
    rfl

/-- Slicing writes both parts. -/
theorem sliceToRelated_effect (kind : FactKind) (addresses : AddressSet) (view : View) :
    sliceToRelated listing kind (some addresses) view =
      sliceToRelated listing kind (some addresses) .initial := by
  apply View.eq_of_parts
  · simp only [sliceToRelated, View.marks_showRows]
    exact View.marks_markPair_congr listing _ _ rfl
  · simp only [sliceToRelated, View.hidden_showRows, View.hidden_markPair, View.hidden_hideAllRows]

/-- Linking writes the marks and keeps the rows. -/
theorem showLinked_effect {origin : ElementId} {selected : Element}
    (h : listing.nearest .linked origin = some selected) (view : View) :
    showLinked listing origin view = ⟨(showLinked listing origin .initial).marks, view.hidden⟩ := by
  apply View.eq_of_parts
  · simp only [showLinked, h, View.marks_mark]
    congr 1
    cases selected.roleIn .linked with
    | none => exact View.marks_markPair_congr listing _ _ rfl
    | some role =>
      cases role with
      | definition => simp only [View.marks_markAll, View.marks_clearMarks]
      | use => exact View.marks_markPair_congr listing _ _ rfl
  · simp only [showLinked, h, View.hidden_mark]
    cases selected.roleIn .linked with
    | none => simp
    | some role => cases role <;> simp

end Effects

namespace Operation

/-- No element stands for the origin: there is no origin, the listing does not have it, or nothing at or
around it has a role in the pair. -/
def Unresolved (listing : Listing) (pair : TagPair) (operation : Operation) : Prop :=
  operation.origin.bind (listing.nearest pair) = none

/-- The operations that leave the marks alone: showing all rows, and slicing or linking from nowhere. -/
def LeavesMarks (listing : Listing) (operation : Operation) : Prop :=
  operation.command = .unslice ∨
  (∃ kind, operation.command = .highlight .slice kind ∧ operation.Unresolved listing (.fact kind)) ∨
  operation.command = .link ∧ operation.Unresolved listing .linked

/-- The operations that leave the hidden rows alone: erasing, linking, slicing from nowhere, and going to
a definition unless that is ambiguous. -/
def LeavesRows (listing : Listing) (duration : UInt64) (operation : Operation) : Prop :=
  operation.command = .erase ∨ operation.command = .link ∨
  (∃ kind, operation.command = .highlight .slice kind ∧ operation.Unresolved listing (.fact kind)) ∨
  ∃ kind, operation.command = .goTo kind ∧
    ∀ view, (operation.navigate listing duration view).2 ≠ some .ambiguous

theorem addresses_eq_none_iff (listing : Listing) (kind : FactKind) (origin : Option ElementId) :
    addresses listing kind origin = none ↔ origin.bind (listing.nearest (.fact kind)) = none := by
  cases origin <;> simp [addresses, Listing.resolve]

/-- Every operation has an effect, and its command and origin tell which parts the effect keeps. -/
theorem exists_effect (listing : Listing) (duration : UInt64) (operation : Operation) :
    ∃ effect : Effect, (∀ view, operation.apply listing duration view = effect.on view) ∧
      (effect.marks = none ↔ operation.LeavesMarks listing) ∧
      (effect.hidden = none ↔ operation.LeavesRows listing duration) := by
  rcases operation with ⟨command, origin⟩
  cases command with
  | erase =>
    exact ⟨⟨some ∅, none, none⟩, fun _ ↦ rfl, by simp [LeavesMarks], by simp [LeavesRows]⟩
  | unslice =>
    exact ⟨⟨none, some ∅, none⟩, fun _ ↦ rfl, by simp [LeavesMarks], by simp [LeavesRows]⟩
  | highlight mode kind =>
    cases mode with
    | all =>
      refine ⟨⟨some (showAll listing kind).marks, some ∅, none⟩, fun view ↦ ?_,
        by simp [LeavesMarks], by simp [LeavesRows]⟩
      exact congrArg Transition.to (View.eq_of_parts rfl (View.hidden_markPair ..))
    | selected =>
      cases hset : addresses listing kind origin with
      | none =>
        refine ⟨⟨some ∅, some ∅, none⟩, fun view ↦ ?_, by simp [LeavesMarks], by simp [LeavesRows]⟩
        simp only [apply, hset]
        rfl
      | some set =>
        refine ⟨⟨some (showRelated listing kind set).marks, some ∅, none⟩, fun view ↦ ?_,
          by simp [LeavesMarks], by simp [LeavesRows]⟩
        simp only [apply, hset]
        exact congrArg Transition.to (View.eq_of_parts rfl (View.hidden_markPair ..))
    | slice =>
      cases hset : addresses listing kind origin with
      | none =>
        have hnowhere : Unresolved listing (.fact kind) ⟨.highlight .slice kind, origin⟩ :=
          (addresses_eq_none_iff listing kind origin).1 hset
        refine ⟨⟨none, none, none⟩, fun view ↦ ?_, by simp [LeavesMarks, hnowhere],
          by simp [LeavesRows, hnowhere]⟩
        simp only [apply, hset]
        rfl
      | some set =>
        have hsomewhere : ¬Unresolved listing (.fact kind) ⟨.highlight .slice kind, origin⟩ := by
          rw [Unresolved, ← addresses_eq_none_iff, hset]
          simp
        let sliced := sliceToRelated listing kind (some set) .initial
        refine ⟨⟨some sliced.marks, some sliced.hidden, none⟩, fun view ↦ ?_,
          by simp [LeavesMarks, hsomewhere], by simp [LeavesRows, hsomewhere]⟩
        simp only [apply, hset]
        rw [sliceToRelated_effect]
        rfl
  | goTo kind =>
    cases origin with
    | none =>
      exact ⟨⟨some ∅, none, none⟩, fun _ ↦ rfl, by simp [LeavesMarks], by simp [LeavesRows, navigate]⟩
    | some origin =>
      obtain ⟨effect, navigation, heffect, hmarks, hrows⟩ :=
        goToDefinition_effect listing duration kind origin
      refine ⟨effect, fun view ↦ ?_, by simp [LeavesMarks, hmarks], ?_⟩
      · simp only [apply, heffect]
      · have : Nonempty View := ⟨.initial⟩
        simp [LeavesRows, navigate, heffect, hrows]
  | link =>
    cases horigin : origin.bind (listing.nearest .linked) with
    | none =>
      refine ⟨⟨none, none, none⟩, fun view ↦ ?_, by simp [LeavesMarks, Unresolved, horigin],
        by simp [LeavesRows]⟩
      cases origin with
      | none => rfl
      | some origin =>
        have hnowhere : listing.nearest .linked origin = none := horigin
        simp only [apply, showLinked, hnowhere]
        rfl
    | some selected =>
      obtain ⟨origin, rfl, hselected⟩ := Option.bind_eq_some_iff.1 horigin
      refine ⟨⟨some (showLinked listing origin .initial).marks, none, none⟩, fun view ↦ ?_,
        by simp [LeavesMarks, Unresolved, hselected], by simp [LeavesRows]⟩
      simp only [apply]
      rw [showLinked_effect listing hselected view]
      rfl

/-! ## Parts of a view along a run -/

section Parts

variable {α : Type} (part : View → α) (listing : Listing) (duration : UInt64)

/-- A part of every view stays as it is. -/
def Keeps (operation : Operation) : Prop :=
  ∀ view, part (operation.apply listing duration view).view = part view

/-- One value takes the place of a part, whatever the view. -/
def Writes (value : α) (operation : Operation) : Prop :=
  ∀ view, part (operation.apply listing duration view).view = value

/-- The value that the last writer of a part among the operations has left there. Without a writer it is
that of the initial view. -/
def LastWritten (operations : List Operation) (value : α) : Prop :=
  (∀ operation ∈ operations, Keeps part listing duration operation) ∧ value = part .initial ∨
  ∃ before operation after, operations = before ++ operation :: after ∧
    Writes part listing duration value operation ∧
    ∀ later ∈ after, Keeps part listing duration later

variable {part listing duration}

theorem keeps_or_writes {operation : Operation} (written : Option α)
    (h : ∀ view, part (operation.apply listing duration view).view = written.getD (part view)) :
    Keeps part listing duration operation ∨ ∃ value, Writes part listing duration value operation := by
  cases written with
  | none => exact .inl h
  | some value => exact .inr ⟨value, h⟩

/-- A part that can differ is kept only if nothing is written. -/
theorem keeps_iff_eq_none {operation : Operation} {written : Option α}
    (h : ∀ view, part (operation.apply listing duration view).view = written.getD (part view))
    (hdiffer : ∀ value, ∃ view, part view ≠ value) :
    Keeps part listing duration operation ↔ written = none := by
  cases written with
  | none => exact ⟨fun _ ↦ rfl, fun _ ↦ h⟩
  | some value =>
    refine ⟨fun hkeeps ↦ ?_, fun hnone ↦ by simp at hnone⟩
    obtain ⟨view, hview⟩ := hdiffer value
    exact absurd ((hkeeps view).symm.trans (h view)) hview

theorem exists_marks_ne (marks : Std.ExtTreeMap ElementId Mark) : ∃ view : View, view.marks ≠ marks := by
  by_cases hempty : marks = ∅
  · refine ⟨View.initial.mark "" .use, fun h ↦ ?_⟩
    rw [hempty, View.marks_mark] at h
    exact Std.ExtTreeMap.insert_ne_empty h
  · exact ⟨.initial, Ne.symm hempty⟩

theorem exists_hidden_ne (hidden : Std.ExtTreeSet Nat) : ∃ view : View, view.hidden ≠ hidden := by
  by_cases hempty : hidden = ∅
  · refine ⟨⟨∅, (∅ : Std.ExtTreeSet Nat).insert 0⟩, fun h ↦ ?_⟩
    rw [hempty] at h
    exact Std.ExtTreeSet.insert_ne_empty h
  · exact ⟨.initial, Ne.symm hempty⟩

theorem replay_concat (operations : List Operation) (operation : Operation) :
    replay listing duration (operations ++ [operation]) =
      operation.apply listing duration (replay listing duration operations).view := by
  rw [replay, List.foldl_append]
  rfl

/-- If every operation keeps a part or writes it, a run leaves there what its last writer has written. -/
theorem lastWritten_replay
    (hparts : ∀ operation,
      Keeps part listing duration operation ∨ ∃ value, Writes part listing duration value operation)
    (operations : List Operation) :
    LastWritten part listing duration operations (part (replay listing duration operations).view) := by
  induction operations using List.reverseRecOn with
  | nil => exact .inl ⟨by simp, rfl⟩
  | append_singleton operations operation ih =>
    rw [replay_concat]
    rcases hparts operation with hkeeps | ⟨value, hwrites⟩
    · rw [hkeeps]
      -- The last operation keeps the part, so the last writer is the one found before.
      rcases ih with ⟨hall, hinitial⟩ | ⟨before, writer, after, rfl, hwriter, hafter⟩
      · refine .inl ⟨fun other hother ↦ ?_, hinitial⟩
        rcases List.mem_append.1 hother with hother | hother
        · exact hall other hother
        · rw [List.mem_singleton.1 hother]
          exact hkeeps
      · refine .inr ⟨before, writer, after ++ [operation], by simp, hwriter, fun later hlater ↦ ?_⟩
        rcases List.mem_append.1 hlater with hlater | hlater
        · exact hafter later hlater
        · rw [List.mem_singleton.1 hlater]
          exact hkeeps
    · rw [hwrites]
      exact .inr ⟨operations, operation, [], rfl, hwrites, by simp⟩

end Parts

/-! ## Marks, rows and scrolling -/

section Components

variable (listing : Listing) (duration : UInt64)

theorem keeps_or_writes_marks (operation : Operation) :
    Keeps View.marks listing duration operation ∨
      ∃ marks, Writes View.marks listing duration marks operation := by
  obtain ⟨effect, heffect, _⟩ := exists_effect listing duration operation
  exact keeps_or_writes effect.marks fun view ↦ by rw [heffect]; rfl

theorem keeps_or_writes_hidden (operation : Operation) :
    Keeps View.hidden listing duration operation ∨
      ∃ hidden, Writes View.hidden listing duration hidden operation := by
  obtain ⟨effect, heffect, _⟩ := exists_effect listing duration operation
  exact keeps_or_writes effect.hidden fun view ↦ by rw [heffect]; rfl

theorem keeps_marks_iff (operation : Operation) :
    Keeps View.marks listing duration operation ↔ operation.LeavesMarks listing := by
  obtain ⟨effect, heffect, hmarks, _⟩ := exists_effect listing duration operation
  rw [← hmarks]
  exact keeps_iff_eq_none (fun view ↦ by rw [heffect]; rfl) exists_marks_ne

theorem keeps_hidden_iff (operation : Operation) :
    Keeps View.hidden listing duration operation ↔ operation.LeavesRows listing duration := by
  obtain ⟨effect, heffect, _, hhidden⟩ := exists_effect listing duration operation
  rw [← hhidden]
  exact keeps_iff_eq_none (fun view ↦ by rw [heffect]; rfl) exists_hidden_ne

theorem scroll_apply_eq (operation : Operation) (view other : View) :
    (operation.apply listing duration view).scroll = (operation.apply listing duration other).scroll := by
  obtain ⟨effect, heffect, _⟩ := exists_effect listing duration operation
  rw [heffect, heffect]
  rfl

theorem apply_view_apply (operation : Operation) (view : View) :
    operation.apply listing duration (operation.apply listing duration view).view =
      operation.apply listing duration view := by
  obtain ⟨effect, heffect, _⟩ := exists_effect listing duration operation
  rw [heffect, heffect, effect.on_view_on]

theorem scroll_replay (operations : List Operation) :
    (replay listing duration operations).scroll =
      operations.getLast?.bind fun operation ↦ (operation.apply listing duration .initial).scroll := by
  induction operations using List.reverseRecOn with
  | nil => rfl
  | append_singleton operations operation _ =>
    rw [replay_concat, List.getLast?_concat, Option.bind_some]
    exact scroll_apply_eq listing duration operation _ _

end Components

/-- Every operation keeps or writes the marks and keeps or writes the hidden rows, and it scrolls the
same way from every view. A run ends with what was written last, and an operation that is repeated makes
the transition that it made before. -/
theorem last_writer_wins (listing : Listing) (duration : UInt64) :
    (∀ operation : Operation,
      (Keeps View.marks listing duration operation ∨
        ∃ marks, Writes View.marks listing duration marks operation) ∧
      (Keeps View.hidden listing duration operation ∨
        ∃ hidden, Writes View.hidden listing duration hidden operation) ∧
      (∀ view other, (operation.apply listing duration view).scroll =
        (operation.apply listing duration other).scroll) ∧
      (Keeps View.marks listing duration operation ↔ operation.LeavesMarks listing) ∧
      (Keeps View.hidden listing duration operation ↔ operation.LeavesRows listing duration) ∧
      ∀ view, operation.apply listing duration (operation.apply listing duration view).view =
        operation.apply listing duration view) ∧
    ∀ operations,
      LastWritten View.marks listing duration operations
        (replay listing duration operations).view.marks ∧
      LastWritten View.hidden listing duration operations
        (replay listing duration operations).view.hidden ∧
      (replay listing duration operations).scroll =
        operations.getLast?.bind fun operation ↦ (operation.apply listing duration .initial).scroll := by
  refine ⟨fun operation ↦ ?_, fun operations ↦ ?_⟩
  · exact ⟨keeps_or_writes_marks listing duration operation,
      keeps_or_writes_hidden listing duration operation, scroll_apply_eq listing duration operation,
      keeps_marks_iff listing duration operation, keeps_hidden_iff listing duration operation,
      apply_view_apply listing duration operation⟩
  · exact ⟨lastWritten_replay (keeps_or_writes_marks listing duration) operations,
      lastWritten_replay (keeps_or_writes_hidden listing duration) operations,
      scroll_replay listing duration operations⟩

end Operation

end DefUse
