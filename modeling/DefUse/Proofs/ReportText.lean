import DefUse.Proofs.Rebuilding
import DefUse.Report
import Mathlib.Algebra.GroupWithZero.Nat
import Mathlib.Data.List.SplitBy

/-!
# Reports as text

The text of a report goes through the rows and counts the hidden ones until a visible row or the end of the
listing comes. Seen as a whole, it goes through the maximal runs of rows that are all visible or all hidden.
The main statement is that the text consists of one line for each hidden run, a heading and the marked elements
for each visible row, and at last the scroll; so that no two lines for hidden runs follow each other, these
lines count all hidden rows, and the marked elements of visible rows alone are printed.
-/

namespace DefUse

/-! ## Elements of rows -/

namespace Listing.WellFormed

variable {listing : Listing} (h : listing.WellFormed)

include h

theorem nodup_map_index : (listing.rows.map Row.index).Nodup := by
  have hindex : listing.rows.map Row.index = List.range listing.rows.length := by
    refine List.ext_getElem? fun place ↦ ?_
    rw [List.getElem?_map]
    cases hrow : listing.rows[place]? with
    | none =>
      rw [Option.map_none, List.getElem?_eq_none (by simpa using List.getElem?_eq_none_iff.1 hrow)]
    | some row =>
      obtain ⟨hplace, _⟩ := List.getElem?_eq_some_iff.1 hrow
      rw [Option.map_some, h.row_index place row hrow, List.getElem?_range hplace]
  rw [hindex]
  exact List.nodup_range

/-- The elements of the rows, one row after the other, are all elements. -/
theorem flatMap_elementsOf : listing.rows.flatMap listing.elementsOf = listing.elements := by
  have hself : ∀ element ∈ listing.elements, listing.element? element.id = some element :=
    fun element helement ↦ (h.element?_eq_some_iff _ _).2 ⟨helement, rfl⟩
  calc listing.rows.flatMap listing.elementsOf
      = (listing.rows.flatMap Row.elements).filterMap listing.element? := List.filterMap_flatMap.symm
    _ = (listing.elements.map Element.id).filterMap listing.element? := by rw [h.rows_ids]
    _ = listing.elements.filterMap some := by
        rw [List.filterMap_map]
        exact List.filterMap_congr hself
    _ = listing.elements := List.filterMap_some

variable {row : Row} (hrow : row ∈ listing.rows)

include hrow

theorem row_of_mem_elementsOf {element : Element} (helement : element ∈ listing.elementsOf row) :
    element.row = row.index := by
  obtain ⟨id, hid, hfound⟩ := List.mem_filterMap.1 helement
  obtain ⟨hmem, rfl⟩ := (h.element?_eq_some_iff _ _).1 hfound
  obtain ⟨own, _, hindex, hunique⟩ := h.element_row element hmem
  rw [← hindex, (hunique row hrow).1 hid]

/-- The ids of a row name the elements that lie in it. -/
theorem filter_row_eq_elementsOf :
    listing.elements.filter (·.row == row.index) = listing.elementsOf row := by
  obtain ⟨before, after, hrows⟩ := List.append_of_mem hrow
  have hnodup := h.nodup_map_index
  rw [hrows, List.map_append, List.map_cons, List.nodup_middle, List.nodup_cons, ← List.map_append] at hnodup
  -- No other row has the same index, so that none has an element that is kept.
  have hothers : ∀ other ∈ before ++ after,
      (listing.elementsOf other).filter (·.row == row.index) = [] := by
    intro other hother
    have hmem : other ∈ listing.rows := by
      rw [hrows]
      simp only [List.mem_append, List.mem_cons] at hother ⊢
      tauto
    rw [List.filter_eq_nil_iff]
    intro element helement heq
    rw [h.row_of_mem_elementsOf hmem helement, beq_iff_eq] at heq
    exact hnodup.1 (List.mem_map.2 ⟨other, hother, heq⟩)
  have hown : (listing.elementsOf row).filter (·.row == row.index) = listing.elementsOf row :=
    List.filter_eq_self.2 fun element helement ↦ beq_iff_eq.2 (h.row_of_mem_elementsOf hrow helement)
  rw [List.forall_mem_append] at hothers
  calc listing.elements.filter (·.row == row.index)
      = listing.rows.flatMap fun other ↦ (listing.elementsOf other).filter (·.row == row.index) := by
        rw [← List.filter_flatMap, h.flatMap_elementsOf]
    _ = listing.elementsOf row := by
        rw [hrows, List.flatMap_append, List.flatMap_cons, hown, List.flatMap_eq_nil_iff.2 hothers.1,
          List.flatMap_eq_nil_iff.2 hothers.2, List.nil_append, List.append_nil]

end Listing.WellFormed

/-! ## Maximal runs -/

/-- Rows cut into runs in which all are shown or none is, each as long as can be. -/
structure MaximalRuns (shown : Row → Bool) (rows : List Row) (runs : List (List Row)) : Prop where
  flatten_eq : runs.flatten = rows
  ne_nil : ∀ run ∈ runs, run ≠ []
  same : ∀ run ∈ runs, ∀ row ∈ run, ∀ other ∈ run, shown row = shown other
  differ : runs.IsChain fun run next ↦ ∀ row ∈ run, ∀ other ∈ next, shown row ≠ shown other

/-- The runs of neighbours that are shown alike. -/
def runsOf (shown : Row → Bool) (rows : List Row) : List (List Row) :=
  rows.splitBy fun row next ↦ shown row == shown next

theorem maximalRuns_runsOf (shown : Row → Bool) (rows : List Row) :
    MaximalRuns shown rows (runsOf shown rows) := by
  have hsame : ∀ run ∈ runsOf shown rows, ∀ row ∈ run, ∀ other ∈ run, shown row = shown other := by
    intro run hrun
    have hchain : (run.map shown).IsChain Eq :=
      (List.isChain_map shown).2 ((List.isChain_of_mem_splitBy hrun).imp fun _ _ ↦ beq_iff_eq.1)
    have hall := hchain.pairwise.forall_of_forall fun _ _ ↦ rfl
    exact fun row hrow other hother ↦ hall (List.mem_map_of_mem hrow) (List.mem_map_of_mem hother)
  -- What the last row of a run and the first of the next one say holds of all rows of the two.
  have hdiffer : (runsOf shown rows).IsChain fun run next ↦
      ∀ row ∈ run, ∀ other ∈ next, shown row ≠ shown other := by
    refine (List.isChain_getLast_head_splitBy _ rows).imp_of_mem_imp ?_
    rintro run next hrun hnext ⟨hlast, hhead, hne⟩ row hrow other hother
    rw [hsame run hrun row hrow _ (List.getLast_mem hlast),
      hsame next hnext other hother _ (List.head_mem hhead)]
    exact beq_eq_false_iff_ne.1 hne
  exact ⟨List.flatten_splitBy _ rows, fun _ ↦ List.ne_nil_of_mem_splitBy, hsame, hdiffer⟩

namespace MaximalRuns

variable {shown : Row → Bool} {rows run : List Row} {runs : List (List Row)}

theorem shown_or_hidden (h : MaximalRuns shown rows runs) (hrun : run ∈ runs) :
    (∀ row ∈ run, shown row = true) ∨ ∀ row ∈ run, shown row = false := by
  obtain ⟨first, hfirst⟩ := List.exists_mem_of_ne_nil run (h.ne_nil run hrun)
  cases hshown : shown first with
  | true => exact .inl fun row hrow ↦ (h.same run hrun row hrow first hfirst).trans hshown
  | false => exact .inr fun row hrow ↦ (h.same run hrun row hrow first hfirst).trans hshown

theorem mem_rows (h : MaximalRuns shown rows runs) (hrun : run ∈ runs) {row : Row} (hrow : row ∈ run) :
    row ∈ rows := by
  rw [← h.flatten_eq]
  exact List.mem_flatten_of_mem hrun hrow

theorem tail (h : MaximalRuns shown rows (run :: runs)) : MaximalRuns shown runs.flatten runs where
  flatten_eq := rfl
  ne_nil other hother := h.ne_nil other (List.mem_cons_of_mem run hother)
  same other hother := h.same other (List.mem_cons_of_mem run hother)
  differ := h.differ.of_cons

/-- The row after a hidden run is shown. -/
theorem head_shown_of_hidden (h : MaximalRuns shown rows (run :: runs))
    (hhidden : ∀ row ∈ run, shown row = false) : ∀ row ∈ runs.flatten.head?, shown row = true := by
  cases runs with
  | nil => simp
  | cons next rest =>
    obtain ⟨last, hlast⟩ := List.exists_mem_of_ne_nil run (h.ne_nil run List.mem_cons_self)
    obtain ⟨first, others, rfl⟩ :=
      List.exists_cons_of_ne_nil (h.ne_nil next (List.mem_cons_of_mem run List.mem_cons_self))
    have hdiffer := h.differ.rel last hlast first List.mem_cons_self
    rw [hhidden last hlast] at hdiffer
    simpa using hdiffer

end MaximalRuns

/-! ## Lines -/

/-- An element with its mark, if it has one and lies in a visible row. -/
def View.markInSight? (view : View) (element : Element) : Option (Element × Mark) :=
  if view.isVisible element.row then (view.markOf element.id).map (element, ·) else none

namespace Report

/-- A line of a report, before it is written out. -/
inductive Line where
  | gap (count : Nat)
  | heading (row : Row)
  | marked (element : Element) (mark : Mark)
  | scroll (request : Scroll)

namespace Line

def text : Line → String
  | gap count => "  ... | (" ++ toString count ++ (if count = 1 then " row" else " rows") ++ " hidden)"
  | heading row =>
    let number := (row.line.map UInt32.toNat).getD (row.index + 1)
    String.ofList ((toString number).toList.leftpad 5 ' ') ++ " | " ++ row.text
  | marked element mark => markLine ⟨element.addresses, element.id, mark, element.row, element.text⟩
  | scroll request => scrollLine request

def isGap : Line → Bool
  | gap _ => true
  | _ => false

/-- The number of hidden rows for which a line stands. -/
def hiddenCount : Line → Nat
  | gap count => count
  | _ => 0

/-- The element on a line, with its mark. -/
def marked? : Line → Option (Element × Mark)
  | marked element mark => some (element, mark)
  | _ => none

/-- A visible row and what is marked in it. -/
def ofRow (listing : Listing) (view : View) (row : Row) : List Line :=
  .heading row ::
    (listing.elementsOf row).filterMap fun element ↦ (view.markOf element.id).map (.marked element)

/-- A run of visible rows, row by row, or a run of hidden rows as a whole. -/
def ofRun (listing : Listing) (view : View) (run : List Row) : List Line :=
  if run.all (view.isVisible ·.index) then run.flatMap (ofRow listing view) else [.gap run.length]

section Runs

variable {listing : Listing} {view : View} {run : List Row}

theorem ofRun_of_shown (hshown : ∀ row ∈ run, view.isVisible row.index = true) :
    ofRun listing view run = run.flatMap (ofRow listing view) :=
  if_pos (List.all_eq_true.2 hshown)

theorem ofRun_of_hidden (hne : run ≠ []) (hhidden : ∀ row ∈ run, view.isVisible row.index = false) :
    ofRun listing view run = [.gap run.length] := by
  obtain ⟨row, hrow⟩ := List.exists_mem_of_ne_nil run hne
  refine if_neg fun hall ↦ ?_
  exact Bool.false_ne_true ((hhidden row hrow).symm.trans (List.all_eq_true.1 hall row hrow))

theorem ofRun_ne_nil (hne : run ≠ []) : ofRun listing view run ≠ [] := by
  obtain ⟨row, others, rfl⟩ := List.exists_cons_of_ne_nil hne
  rw [ofRun]
  split <;> simp [ofRow]

theorem not_isGap_of_shown (hshown : ∀ row ∈ run, view.isVisible row.index = true) :
    ∀ line ∈ ofRun listing view run, ¬line.isGap = true := by
  rw [ofRun_of_shown hshown]
  intro line hline
  obtain ⟨row, -, hline⟩ := List.mem_flatMap.1 hline
  obtain rfl | hline := List.mem_cons.1 hline
  · exact Bool.false_ne_true
  · obtain ⟨element, -, hmarked⟩ := List.mem_filterMap.1 hline
    obtain ⟨mark, -, rfl⟩ := Option.map_eq_some_iff.1 hmarked
    exact Bool.false_ne_true

theorem hiddenCount_of_not_isGap {line : Line} (h : ¬line.isGap = true) : line.hiddenCount = 0 := by
  cases line with
  | gap count => exact absurd rfl h
  | _ => rfl

variable {rows : List Row} {runs : List (List Row)}
  (hruns : MaximalRuns (fun row ↦ view.isVisible row.index) rows runs)

include hruns

theorem isChain_ofRun (hrun : run ∈ runs) :
    (ofRun listing view run).IsChain fun line next ↦ ¬(line.isGap = true ∧ next.isGap = true) := by
  obtain hshown | hhidden := hruns.shown_or_hidden hrun
  · refine (List.pairwise_of_forall_mem_list fun line hline next _ hgaps ↦ ?_).isChain
    exact not_isGap_of_shown hshown line hline hgaps.1
  · rw [ofRun_of_hidden (hruns.ne_nil run hrun) hhidden]
    exact .singleton _

theorem isChain_flatMap_ofRun (listing : Listing) :
    (runs.flatMap (ofRun listing view)).IsChain fun line next ↦
      ¬(line.isGap = true ∧ next.isGap = true) := by
  have hne : [] ∉ runs.map (ofRun listing view) := fun hmem ↦ by
    obtain ⟨run, hrun, hnil⟩ := List.mem_map.1 hmem
    exact ofRun_ne_nil (hruns.ne_nil run hrun) hnil
  rw [List.flatMap_def, List.isChain_flatten hne, List.isChain_map]
  refine ⟨List.forall_mem_map.2 fun run hrun ↦ isChain_ofRun hruns hrun, ?_⟩
  refine hruns.differ.imp_of_mem_imp fun run next hrun hnext hdiffer line hline other hother hgaps ↦ ?_
  have hline := List.mem_of_mem_getLast? hline
  have hother := List.mem_of_mem_head? hother
  obtain ⟨row, hrow⟩ := List.exists_mem_of_ne_nil run (hruns.ne_nil run hrun)
  obtain ⟨first, hfirst⟩ := List.exists_mem_of_ne_nil next (hruns.ne_nil next hnext)
  -- One of the two runs is shown, and none of its lines is a gap.
  obtain hshown | hhidden := hruns.shown_or_hidden hrun
  · exact not_isGap_of_shown hshown line hline hgaps.1
  obtain hshown | hhidden' := hruns.shown_or_hidden hnext
  · exact not_isGap_of_shown hshown other hother hgaps.2
  · exact hdiffer row hrow first hfirst ((hhidden row hrow).trans (hhidden' first hfirst).symm)

theorem sum_hiddenCount_ofRun (hrun : run ∈ runs) :
    ((ofRun listing view run).map hiddenCount).sum = run.countP fun row ↦ !view.isVisible row.index := by
  obtain hshown | hhidden := hruns.shown_or_hidden hrun
  · have hzero : ∀ line ∈ ofRun listing view run, line.hiddenCount = 0 :=
      fun line hline ↦ hiddenCount_of_not_isGap (not_isGap_of_shown hshown line hline)
    rw [List.sum_eq_zero_iff_forall_eq_nat.2 (List.forall_mem_map.2 hzero),
      List.countP_eq_zero.2 (by simpa using hshown)]
  · rw [ofRun_of_hidden (hruns.ne_nil run hrun) hhidden, List.countP_eq_length.2 (by simpa using hhidden)]
    rfl

theorem sum_hiddenCount_flatMap_ofRun (listing : Listing) :
    ((runs.flatMap (ofRun listing view)).map hiddenCount).sum =
      rows.countP fun row ↦ !view.isVisible row.index := by
  rw [List.map_flatMap, List.flatMap_def, List.sum_flatten, List.map_map, ← hruns.flatten_eq,
    List.countP_flatten]
  exact congrArg List.sum (List.map_congr_left fun run hrun ↦ sum_hiddenCount_ofRun hruns hrun)

/-- The lines of a run hold the marks in sight, in the order of the elements. -/
theorem filterMap_marked?_ofRun (h : listing.WellFormed) (hrows : ∀ row ∈ rows, row ∈ listing.rows)
    (hrun : run ∈ runs) : (ofRun listing view run).filterMap marked? =
      run.flatMap fun row ↦ (listing.elementsOf row).filterMap view.markInSight? := by
  have hinsight : ∀ row ∈ run, ∀ element ∈ listing.elementsOf row,
      view.isVisible element.row = view.isVisible row.index := fun row hrow element helement ↦ by
    rw [h.row_of_mem_elementsOf (hrows row (hruns.mem_rows hrun hrow)) helement]
  obtain hshown | hhidden := hruns.shown_or_hidden hrun
  · rw [ofRun_of_shown hshown, List.filterMap_flatMap]
    refine List.flatMap_congr fun row hrow ↦ ?_
    rw [ofRow, List.filterMap_cons_none rfl, List.filterMap_filterMap]
    refine List.filterMap_congr fun element helement ↦ ?_
    rw [View.markInSight?, if_pos ((hinsight row hrow element helement).trans (hshown row hrow))]
    cases view.markOf element.id <;> rfl
  · rw [ofRun_of_hidden (hruns.ne_nil run hrun) hhidden]
    refine (List.flatMap_eq_nil_iff.2 fun row hrow ↦ List.filterMap_eq_nil_iff.2 fun element helement ↦ ?_).symm
    rw [View.markInSight?, hinsight row hrow element helement, hhidden row hrow]
    rfl

end Runs

theorem filterMap_marked?_flatMap_ofRun {listing : Listing} {view : View} {runs : List (List Row)}
    (h : listing.WellFormed) (hruns : MaximalRuns (fun row ↦ view.isVisible row.index) listing.rows runs) :
    (runs.flatMap (ofRun listing view)).filterMap marked? = listing.elements.filterMap view.markInSight? := by
  calc (runs.flatMap (ofRun listing view)).filterMap marked?
      = runs.flatMap fun run ↦ run.flatMap fun row ↦
          (listing.elementsOf row).filterMap view.markInSight? := by
        rw [List.filterMap_flatMap]
        exact List.flatMap_congr fun run ↦ filterMap_marked?_ofRun hruns h fun _ ↦ id
    _ = listing.rows.flatMap fun row ↦ (listing.elementsOf row).filterMap view.markInSight? := by
        rw [← hruns.flatten_eq, ← List.flatMap_id, List.flatMap_assoc]
        rfl
    _ = listing.elements.filterMap view.markInSight? := by
        rw [← List.filterMap_flatMap, h.flatMap_elementsOf]

end Line

section Body

variable (report : Report) {run rest : List Row}

theorem bodyLines_append_of_hidden (hhidden : ∀ row ∈ run, report.visibleRows.contains row.index = false)
    (count : Nat) : report.bodyLines count (run ++ rest) = report.bodyLines (count + run.length) rest := by
  induction run generalizing count with
  | nil => rfl
  | cons row run ih =>
    obtain ⟨hrow, hrun⟩ := List.forall_mem_cons.1 hhidden
    rw [List.cons_append, bodyLines, if_neg (by rw [hrow]; exact Bool.false_ne_true), ih hrun, List.length_cons]
    congr 1
    omega

theorem bodyLines_append_of_shown (hshown : ∀ row ∈ run, report.visibleRows.contains row.index = true) :
    report.bodyLines 0 (run ++ rest) = run.flatMap report.rowLines ++ report.bodyLines 0 rest := by
  induction run with
  | nil => rfl
  | cons row run ih =>
    obtain ⟨hrow, hrun⟩ := List.forall_mem_cons.1 hshown
    rw [List.cons_append, bodyLines, if_pos hrow, ih hrun, List.flatMap_cons, List.append_assoc,
      List.append_assoc]
    rfl

/-- A visible row ends the run of hidden rows before it, as does the end of the listing. -/
theorem bodyLines_of_head_shown (hhead : ∀ row ∈ rest.head?, report.visibleRows.contains row.index = true)
    (count : Nat) : report.bodyLines count rest = runLines count ++ report.bodyLines 0 rest := by
  cases rest with
  | nil => exact (List.append_nil _).symm
  | cons row rest =>
    have hrow := hhead row rfl
    rw [bodyLines, bodyLines, if_pos hrow, if_pos hrow, List.append_assoc, List.append_assoc]
    rfl

end Body

theorem runLines_of_ne_zero {count : Nat} (h : count ≠ 0) : runLines count = [Line.text (.gap count)] := by
  match count, h with
  | 1, _ => decide +kernel
  | count + 2, _ =>
    have htext : " rows" ++ " hidden)" = " rows hidden)" := by decide +kernel
    have hmany : count + 2 ≠ 1 := by omega
    change ["  ... | (" ++ toString (count + 2) ++ " rows hidden)"] = [_]
    rw [Line.text, if_neg hmany, String.append_assoc, String.append_assoc, String.append_assoc, htext]

theorem padLeft_eq_leftpad (width : Nat) (text : String) :
    padLeft width text = String.ofList (text.toList.leftpad width ' ') := by
  rw [padLeft, List.leftpad, String.ofList_append, String.ofList_toList, String.length_toList]

theorem lineNumber_eq_getD (row : Row) :
    lineNumber row = (row.line.map UInt32.toNat).getD (row.index + 1) := by
  rw [lineNumber]
  cases row.line <;> rfl

section Transitions

variable {listing : Listing} (transition : Transition)

theorem contains_visibleRows {row : Row} (hrow : row ∈ listing.rows) :
    (ofTransition listing transition).visibleRows.contains row.index =
      transition.view.isVisible row.index := by
  rw [Bool.eq_iff_iff, List.contains_iff_mem, ofTransition, List.mem_filter]
  exact and_iff_right (List.mem_map_of_mem hrow)

theorem rowLines_ofTransition (h : listing.WellFormed) {row : Row} (hrow : row ∈ listing.rows) :
    (ofTransition listing transition).rowLines row =
      (Line.ofRow listing transition.view row).map Line.text := by
  let marked (element : Element) : Option MarkedElement :=
    (transition.view.markOf element.id).map fun mark ↦
      ⟨element.addresses, element.id, mark, element.row, element.text⟩
  have hmarks : (ofTransition listing transition).marks.filter (·.row == row.index) =
      (listing.elementsOf row).filterMap marked := by
    calc (listing.elements.filterMap marked).filter (·.row == row.index)
        = (listing.elements.filter (·.row == row.index)).filterMap marked := by
          rw [List.filter_filterMap, List.filterMap_filter]
          refine List.filterMap_congr fun element _ ↦ ?_
          cases hmark : transition.view.markOf element.id <;> simp [marked, hmark, Option.filter]
      _ = (listing.elementsOf row).filterMap marked := by rw [h.filter_row_eq_elementsOf hrow]
  have hlines : ((listing.elementsOf row).filterMap marked).map markLine =
      ((listing.elementsOf row).filterMap fun element ↦
        (transition.view.markOf element.id).map (Line.marked element)).map Line.text := by
    simp only [List.map_filterMap, marked, Option.map_map]
    rfl
  rw [rowLines, hmarks, hlines, padLeft_eq_leftpad, lineNumber_eq_getD]
  rfl

/-- The body of a text goes through maximal runs. -/
theorem bodyLines_ofTransition (h : listing.WellFormed) {rows : List Row} {runs : List (List Row)}
    (hruns : MaximalRuns (fun row ↦ transition.view.isVisible row.index) rows runs)
    (hrows : ∀ row ∈ rows, row ∈ listing.rows) :
    (ofTransition listing transition).bodyLines 0 rows =
      (runs.flatMap (Line.ofRun listing transition.view)).map Line.text := by
  induction runs generalizing rows with
  | nil =>
    rw [← hruns.flatten_eq]
    rfl
  | cons run runs ih =>
    have hcontains : ∀ row ∈ rows, (ofTransition listing transition).visibleRows.contains row.index =
        transition.view.isVisible row.index := fun row hrow ↦ contains_visibleRows transition (hrows row hrow)
    have hrest : ∀ row ∈ runs.flatten, row ∈ rows := fun row hrow ↦ by
      rw [← hruns.flatten_eq]
      exact List.mem_append_right run hrow
    have hrun : ∀ row ∈ run, row ∈ rows := fun row ↦ hruns.mem_rows List.mem_cons_self
    have ih := ih hruns.tail fun row hrow ↦ hrows row (hrest row hrow)
    rw [List.flatMap_cons, List.map_append, ← ih, ← hruns.flatten_eq, List.flatten_cons]
    obtain hshown | hhidden := hruns.shown_or_hidden List.mem_cons_self
    · have hcontained := fun row hrow ↦ (hcontains row (hrun row hrow)).trans (hshown row hrow)
      have hlines := fun row hrow ↦ rowLines_ofTransition transition h (hrows row (hrun row hrow))
      rw [bodyLines_append_of_shown _ hcontained, Line.ofRun_of_shown hshown, List.map_flatMap,
        List.flatMap_congr hlines]
    · have hcontained := fun row hrow ↦ (hcontains row (hrun row hrow)).trans (hhidden row hrow)
      have hhead := fun row hrow ↦
        (hcontains row (hrest row (List.mem_of_mem_head? hrow))).trans
          (hruns.head_shown_of_hidden hhidden row hrow)
      have hne := hruns.ne_nil run List.mem_cons_self
      rw [bodyLines_append_of_hidden _ hcontained, bodyLines_of_head_shown _ hhead, Nat.zero_add,
        runLines_of_ne_zero (mt List.length_eq_zero_iff.1 hne), Line.ofRun_of_hidden hne hhidden]
      rfl

end Transitions

/-! ## Every row is accounted for -/

namespace Line

/-- All lines: the runs from the first to the last, and then the scroll. -/
def ofTransition (listing : Listing) (transition : Transition) : List Line :=
  (runsOf (fun row ↦ transition.view.isVisible row.index) listing.rows).flatMap
      (ofRun listing transition.view) ++
    transition.scroll.toList.map .scroll

variable (listing : Listing) (transition : Transition)

theorem isChain_ofTransition : (ofTransition listing transition).IsChain fun line next ↦
    ¬(line.isGap = true ∧ next.isGap = true) := by
  refine (isChain_flatMap_ofRun (maximalRuns_runsOf _ _) listing).append ?_ fun line _ next hnext hgaps ↦ ?_
  · cases transition.scroll with
    | none => exact .nil
    | some request => exact .singleton _
  · obtain ⟨request, -, rfl⟩ := List.mem_map.1 (List.mem_of_mem_head? hnext)
    exact Bool.false_ne_true hgaps.2

theorem sum_hiddenCount_ofTransition : ((ofTransition listing transition).map hiddenCount).sum =
    listing.rows.countP fun row ↦ !transition.view.isVisible row.index := by
  have hscroll : ((transition.scroll.toList.map Line.scroll).map hiddenCount).sum = 0 := by
    cases transition.scroll <;> rfl
  rw [ofTransition, List.map_append, List.sum_append,
    sum_hiddenCount_flatMap_ofRun (maximalRuns_runsOf _ _), hscroll, Nat.add_zero]

variable {listing} (h : listing.WellFormed)

include h

theorem filterMap_marked?_ofTransition : (ofTransition listing transition).filterMap marked? =
    listing.elements.filterMap transition.view.markInSight? := by
  have hscroll : (transition.scroll.toList.map Line.scroll).filterMap marked? = [] := by
    cases transition.scroll <;> rfl
  rw [ofTransition, List.filterMap_append, filterMap_marked?_flatMap_ofRun h (maximalRuns_runsOf _ _),
    hscroll, List.append_nil]

/-- The elements that have a line are the marked ones in visible rows. -/
theorem marked_mem_ofTransition_iff {element : Element} {mark : Mark} :
    .marked element mark ∈ ofTransition listing transition ↔
      element ∈ listing.elements ∧ transition.view.isVisible element.row = true ∧
        transition.view.markOf element.id = some mark := by
  have hline : .marked element mark ∈ ofTransition listing transition ↔
      (element, mark) ∈ (ofTransition listing transition).filterMap marked? := by
    rw [List.mem_filterMap]
    refine ⟨fun hline ↦ ⟨_, hline, rfl⟩, ?_⟩
    rintro ⟨line, hline, heq⟩
    cases line <;> simp_all [marked?]
  rw [hline, filterMap_marked?_ofTransition transition h, List.mem_filterMap]
  unfold View.markInSight?
  constructor
  · rintro ⟨other, hother, heq⟩
    obtain ⟨hvisible, heq⟩ := Option.ite_none_right_eq_some.1 heq
    obtain ⟨_, hmark, heq⟩ := Option.map_eq_some_iff.1 heq
    obtain ⟨rfl, rfl⟩ := Prod.mk.inj heq
    exact ⟨hother, hvisible, hmark⟩
  · rintro ⟨helement, hvisible, hmark⟩
    exact ⟨element, helement, by rw [if_pos hvisible, hmark]; rfl⟩

theorem marked_not_mem_ofTransition {element : Element} {mark : Mark}
    (hhidden : transition.view.isVisible element.row = false) :
    .marked element mark ∉ ofTransition listing transition := by
  rw [marked_mem_ofTransition_iff transition h, hhidden]
  simp

end Line

theorem text_ofTransition {listing : Listing} (transition : Transition) (h : listing.WellFormed) :
    (ofTransition listing transition).text listing =
      String.join ((Line.ofTransition listing transition).map fun line ↦ line.text ++ "\n") := by
  rw [text, bodyLines_ofTransition transition h (maximalRuns_runsOf _ _) fun _ ↦ id]
  simp only [Line.ofTransition, List.map_append, List.map_map]
  rfl

/-- The text of a report accounts for every row once: hidden rows are counted run by run, and a visible row has
its own line, followed by its marked elements. -/
theorem text_accounts_for_rows {source : String} {listing : Listing}
    (hread : Listing.ofText source = .ok listing) (transition : Transition) :
    MaximalRuns (fun row ↦ transition.view.isVisible row.index) listing.rows
        (runsOf (fun row ↦ transition.view.isVisible row.index) listing.rows) ∧
      (ofTransition listing transition).text listing =
        String.join ((Line.ofTransition listing transition).map fun line ↦ line.text ++ "\n") ∧
      ((Line.ofTransition listing transition).IsChain fun line next ↦
        ¬(line.isGap = true ∧ next.isGap = true)) ∧
      ((Line.ofTransition listing transition).map Line.hiddenCount).sum =
        listing.rows.countP (fun row ↦ !transition.view.isVisible row.index) ∧
      (Line.ofTransition listing transition).filterMap Line.marked? =
        listing.elements.filterMap transition.view.markInSight? ∧
      ∀ element mark, transition.view.isVisible element.row = false →
        .marked element mark ∉ Line.ofTransition listing transition := by
  have h : listing.WellFormed := .ofText hread
  refine ⟨maximalRuns_runsOf _ _, text_ofTransition transition h, Line.isChain_ofTransition listing transition,
    Line.sum_hiddenCount_ofTransition listing transition, Line.filterMap_marked?_ofTransition transition h, ?_⟩
  exact fun element mark hhidden ↦ Line.marked_not_mem_ofTransition transition h hhidden

/-- The first two rows are hidden; there is a mark in the second and in the third. -/
def sampleTransition : Transition where
  view := ⟨.ofList [("u", Mark.use), ("w", Mark.target)], .ofList [0, 1]⟩
  scroll := some ⟨400, "w", 2⟩

theorem text_accounts_for_rows_sample :
    Listing.ofText Listing.sampleSource = .ok Listing.sampleListing ∧
      sampleTransition.view.markOf "u" = some .use ∧
      (ofTransition Listing.sampleListing sampleTransition).text Listing.sampleListing =
        "  ... | (2 rows hidden)\n    3 | \n      | goto w \"\" [a,b]\nscroll: w (row 2) within 400 ms\n" ∧
      ((Line.ofTransition Listing.sampleListing sampleTransition).map Line.hiddenCount).sum = 2 ∧
      ∀ element mark, element.row = 1 →
        .marked element mark ∉ Line.ofTransition Listing.sampleListing sampleTransition := by
  obtain ⟨-, htext, -, hcount, -, hmarked⟩ :=
    text_accounts_for_rows Listing.ofText_sampleSource sampleTransition
  refine ⟨Listing.ofText_sampleSource, by decide +kernel, htext.trans (by decide +kernel),
    hcount.trans (by decide +kernel), fun element mark hrow ↦ hmarked element mark ?_⟩
  rw [hrow]
  decide +kernel

end Report

end DefUse
