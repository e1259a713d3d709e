import DefUse.Proofs.Forest

/-!
# Ways up in a forest

From every node of a forest a way leads up to the root of its tree. The main statement is that the elements of
a forest are the nodes at the start of such ways, each with the next node of its way around it.
-/

namespace DefUse

namespace Tree

/-- The way from a node of a forest up to the root of its tree, the node first. -/
inductive IsPath {α : Type} : List (Tree α) → List α → Prop where
  | root {label : α} {children trees : List (Tree α)} (h : .node label children ∈ trees) :
      IsPath trees [label]
  | inside {label : α} {children trees : List (Tree α)} {path : List α} (h : .node label children ∈ trees)
      (hpath : IsPath children path) : IsPath trees (path ++ [label])

mutual

/-- The labels of a tree, a node before the nodes inside it. -/
def labels {α : Type} : Tree α → List α
  | .node label children => label :: labelsAll children

def labelsAll {α : Type} : List (Tree α) → List α
  | [] => []
  | tree :: rest => tree.labels ++ labelsAll rest

end

theorem labelsAll_node {α : Type} (label : α) (children rest : List (Tree α)) :
    labelsAll (.node label children :: rest) = label :: (labelsAll children ++ labelsAll rest) := rfl

theorem mapAll_node {α β : Type} (f : α → β) (label : α) (children rest : List (Tree α)) :
    mapAll f (.node label children :: rest) = .node (f label) (mapAll f children) :: mapAll f rest := rfl

section Path

variable {α : Type} {trees children rest : List (Tree α)} {label : α} {path above : List α}

theorem IsPath.ne_nil (h : IsPath trees path) : path ≠ [] := by
  cases h <;> simp

theorem isPath_nil_iff : IsPath ([] : List (Tree α)) path ↔ False := by
  refine ⟨fun h ↦ ?_, False.elim⟩
  cases h <;> contradiction

/-- A way starts at the first root, or inside its tree, or in the trees behind it. -/
theorem isPath_node_iff : IsPath (.node label children :: rest) path ↔
    path = [label] ∨ (∃ inner, IsPath children inner ∧ path = inner ++ [label]) ∨ IsPath rest path := by
  constructor
  · intro h
    cases h with
    | root h =>
      rcases List.mem_cons.1 h with hfirst | hrest
      · injection hfirst with hlabel
        exact .inl (by rw [hlabel])
      · exact .inr (.inr (.root hrest))
    | inside h hpath =>
      rcases List.mem_cons.1 h with hfirst | hrest
      · injection hfirst with hlabel hchildren
        subst hlabel hchildren
        exact .inr (.inl ⟨_, hpath, rfl⟩)
      · exact .inr (.inr (.inside hrest hpath))
  · rintro (rfl | ⟨inner, hinner, rfl⟩ | h)
    · exact .root List.mem_cons_self
    · exact .inside List.mem_cons_self hinner
    · cases h with
      | root h => exact .root (List.mem_cons_of_mem _ h)
      | inside h hpath => exact .inside (List.mem_cons_of_mem _ h) hpath

/-- The way of a node goes on as the way of the node around it. -/
theorem IsPath.tail (h : IsPath trees (label :: above)) (hne : above ≠ []) : IsPath trees above := by
  generalize hpath : label :: above = path at h
  induction h generalizing above with
  | root h => exact absurd (List.cons.inj hpath).2 hne
  | @inside outer children trees inner h hinner ih =>
    cases inner with
    | nil => exact absurd rfl hinner.ne_nil
    | cons first others =>
      obtain ⟨rfl, rfl⟩ := List.cons.inj hpath
      by_cases hothers : others = []
      · subst hothers
        exact .root h
      · exact .inside h (ih hothers rfl)

/-- Where the way of a node can start, and what it has above the node there. -/
theorem isPath_node_cons_iff {first : α} : IsPath (.node first children :: rest) (label :: above) ↔
    label = first ∧ above = [] ∨ (∃ inner, IsPath children (label :: inner) ∧ above = inner ++ [first]) ∨
      IsPath rest (label :: above) := by
  rw [isPath_node_iff, List.cons.injEq]
  refine or_congr_right (or_congr_left ⟨?_, ?_⟩)
  · rintro ⟨inner, hinner, h⟩
    rcases List.cons_eq_append_iff.1 h with ⟨rfl, _⟩ | ⟨start, rfl, hstart⟩
    · exact absurd rfl hinner.ne_nil
    · exact ⟨start, hinner, hstart⟩
  · rintro ⟨inner, hinner, rfl⟩
    exact ⟨label :: inner, hinner, rfl⟩

theorem mem_labelsAll_iff : label ∈ labelsAll trees ↔ ∃ above, IsPath trees (label :: above) := by
  induction trees using forestInduction with
  | nil => simp [labelsAll, isPath_nil_iff]
  | node first children rest ihchildren ihrest =>
    rw [labelsAll_node, List.mem_cons, List.mem_append, ihchildren, ihrest]
    simp only [isPath_node_cons_iff]
    constructor
    · rintro (rfl | ⟨above, h⟩ | ⟨above, h⟩)
      · exact ⟨[], .inl ⟨rfl, rfl⟩⟩
      · exact ⟨above ++ [first], .inr (.inl ⟨above, h, rfl⟩)⟩
      · exact ⟨above, .inr (.inr h)⟩
    · rintro ⟨above, ⟨hfirst, _⟩ | ⟨inner, h, _⟩ | h⟩
      · exact .inl hfirst
      · exact .inr (.inl ⟨inner, h⟩)
      · exact .inr (.inr ⟨above, h⟩)

/-- An element of a forest is the label at the start of a way, inside the label that comes next. -/
theorem mem_elementsAll_mapAll_iff (read : α → Label) {row : Nat} {parent : Option ElementId}
    {element : Element} :
    element ∈ elementsAll row parent (mapAll read trees) ↔ ∃ label above, IsPath trees (label :: above) ∧
      element = (read label).element row ((above.head?.map fun outer ↦ (read outer).id).or parent) := by
  induction trees using forestInduction generalizing parent with
  | nil => simp [mapAll, elementsAll_nil, isPath_nil_iff]
  | node first children rest ihchildren ihrest =>
    rw [mapAll_node, elementsAll_node, List.mem_cons, List.mem_append, ihchildren, ihrest]
    simp only [isPath_node_cons_iff]
    constructor
    · rintro (rfl | ⟨label, above, h, rfl⟩ | ⟨label, above, h, rfl⟩)
      · exact ⟨first, [], .inl ⟨rfl, rfl⟩, rfl⟩
      · refine ⟨label, above ++ [first], .inr (.inl ⟨above, h, rfl⟩), ?_⟩
        cases above <;> rfl
      · exact ⟨label, above, .inr (.inr h), rfl⟩
    · rintro ⟨label, above, ⟨rfl, rfl⟩ | ⟨inner, h, rfl⟩ | h, rfl⟩
      · exact .inl rfl
      · refine .inr (.inl ⟨label, inner, h, ?_⟩)
        cases inner <;> rfl
      · exact .inr (.inr ⟨label, above, h, rfl⟩)

/-- What does not depend on the places of elements can be read off the labels. -/
theorem map_elementsAll_mapAll {β : Type} {read : α → Label} {f : Element → β} {g : α → β}
    (h : ∀ label row parent, f ((read label).element row parent) = g label) (row : Nat)
    (parent : Option ElementId) :
    (elementsAll row parent (mapAll read trees)).map f = (labelsAll trees).map g := by
  induction trees using forestInduction generalizing parent with
  | nil => rfl
  | node first children rest ihchildren ihrest =>
    rw [mapAll_node, elementsAll_node, labelsAll_node, List.map_cons, List.map_append, ihchildren, ihrest,
      List.map_cons, List.map_append, h]

end Path

end Tree

/-- The nodes of all rows in written order. -/
def Outline.labels {α : Type} (outline : Outline α) : List α :=
  outline.rows.flatMap fun row ↦ Tree.labelsAll row.trees

end DefUse
