import DefUse.Listing

/-!
# Forests in written order

The elements of a forest come in the order in which they are written, a node before the nodes inside it.
What holds of them is proved along one induction: a forest is empty, or it has a first node, a forest
inside that node and a forest behind it. The main statement is that the element around an element has
been written before it.
-/

namespace DefUse

/-- A place in the second of two lists lies behind the whole first one. -/
theorem split_append {α : Type} {first second before after : List α} {element : α}
    (h : first ++ second = before ++ element :: after) :
    (∃ rest, first = before ++ element :: rest) ∨
      ∃ start, before = first ++ start ∧ second = start ++ element :: after := by
  rcases List.append_eq_append_iff.1 h with ⟨start, hbefore, hsecond⟩ | ⟨rest, hfirst, hrest⟩
  · exact .inr ⟨start, hbefore, hsecond⟩
  · rcases List.cons_eq_append_iff.1 hrest with ⟨rfl, hsecond⟩ | ⟨tail, rfl, _⟩
    · exact .inr ⟨[], by simpa using hfirst.symm, by simpa using hsecond⟩
    · exact .inl ⟨tail, hfirst⟩

namespace Tree

mutual

/-- The elements of a tree, a node before the nodes inside it. -/
def elements (row : Nat) (parent : Option ElementId) : Tree Label → List Element
  | .node label children => label.element row parent :: elementsAll row (some label.id) children

def elementsAll (row : Nat) (parent : Option ElementId) : List (Tree Label) → List Element
  | [] => []
  | tree :: rest => tree.elements row parent ++ elementsAll row parent rest

end

/-- Induction on forests. -/
theorem forestInduction {α : Type} {motive : List (Tree α) → Prop} (nil : motive [])
    (node : ∀ label children rest, motive children → motive rest →
      motive (.node label children :: rest)) :
    ∀ trees, motive trees
  | [] => nil
  | .node label children :: rest =>
    node label children rest (forestInduction nil node children) (forestInduction nil node rest)

theorem elementsAll_nil (row : Nat) (parent : Option ElementId) : elementsAll row parent [] = [] := rfl

theorem elementsAll_node (row : Nat) (parent : Option ElementId) (label : Label)
    (children rest : List (Tree Label)) :
    elementsAll row parent (.node label children :: rest) =
      label.element row parent ::
        (elementsAll row (some label.id) children ++ elementsAll row parent rest) := rfl

theorem row_of_mem_elementsAll {row : Nat} {parent : Option ElementId} {trees : List (Tree Label)}
    {element : Element} (h : element ∈ elementsAll row parent trees) : element.row = row := by
  induction trees using forestInduction generalizing parent with
  | nil => simp [elementsAll_nil] at h
  | node label children rest ihchildren ihrest =>
    rw [elementsAll_node, List.mem_cons, List.mem_append] at h
    rcases h with rfl | h | h
    · rfl
    · exact ihchildren h
    · exact ihrest h

/-- An element stands at the top of the forest, or inside an element written before it. -/
theorem parent_eq_or_earlier {row : Nat} {parent : Option ElementId} {trees : List (Tree Label)}
    {before after : List Element} {element : Element}
    (h : elementsAll row parent trees = before ++ element :: after) :
    element.parent = parent ∨ ∃ outer ∈ before, element.parent = some outer.id := by
  induction trees using forestInduction generalizing parent before after with
  | nil => simp [elementsAll_nil] at h
  | node label children rest ihchildren ihrest =>
    rw [elementsAll_node] at h
    rcases List.cons_eq_append_iff.1 h with ⟨_, hhead⟩ | ⟨start, rfl, htail⟩
    · injection hhead with hhead
      exact .inl (by rw [hhead]; rfl)
    · rcases split_append htail with ⟨tail, hinside⟩ | ⟨gap, rfl, hbehind⟩
      · rcases ihchildren hinside with hparent | ⟨outer, houter, hparent⟩
        · exact .inr ⟨label.element row parent, List.mem_cons_self, hparent⟩
        · exact .inr ⟨outer, List.mem_cons_of_mem _ houter, hparent⟩
      · rcases ihrest hbehind with hparent | ⟨outer, houter, hparent⟩
        · exact .inl hparent
        · exact .inr ⟨outer, List.mem_cons_of_mem _ (List.mem_append_right _ houter), hparent⟩

end Tree

end DefUse
