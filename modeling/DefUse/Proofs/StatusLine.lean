import DefUse.Proofs.JsonText
import DefUse.Proofs.MarkCounts
import DefUse.Proofs.OneLineScript

/-!
# The status line of a navigation

A command line that goes to a definition prints its report, and beside it one line on how it ended. In front of
the line there is nothing but the log, with a line for every element that repeats an address. The line is
made from the view that came out and not from the definitions that were found. Whatever ids a listing has, the
line tells which of its forms it has and what stands in it. The main statement is that the line tells the
truth: it counts candidates exactly if the navigation is ambiguous, and these are the definitions and the
targets in the report; it names an element and its place exactly if the report scrolls there; and otherwise the
report has neither a target nor a scroll.
-/

namespace DefUse

/-! ## Forms of the line -/

/-- Where an element is said to be: on a line, or in a row that has no line number. -/
inductive Spot where
  | line (number : Nat)
  | row (index : Nat)
deriving DecidableEq

namespace Spot

def words : Spot → String
  | .line _ => "on line"
  | .row _ => "in row"

def number : Spot → Nat
  | .line number => number
  | .row index => index

def text (spot : Spot) : String := spot.words ++ " " ++ toString spot.number

/-- The spot of a row. -/
def ofRow (row : Row) : Spot :=
  match row.line with
  | some known => .line known.toNat
  | none => .row row.index

/-- The last letters keep the words apart. -/
theorem getLast?_words (spot : Spot) :
    spot.words.toList.getLast? = some (match spot with | .line _ => 'e' | .row _ => 'w') := by
  cases spot <;> simp [words]

theorem eq_of_words_of_number {spot other : Spot} (hwords : spot.words = other.words)
    (hnumber : spot.number = other.number) : spot = other := by
  cases spot <;> cases other <;> simp_all [words, number]

end Spot

/-- What the line says. -/
inductive StatusLine where
  | candidates (count : Nat)
  | names (element : ElementId) (spot : Spot)
  | noDefinition
  | notNavigable
deriving DecidableEq

namespace StatusLine

def body : StatusLine → String
  | .candidates count => "goto: definitions disagree, sliced to " ++ toString count ++ " candidates"
  | .names element spot => "goto: " ++ element ++ " " ++ spot.text
  | .noDefinition => "goto: no definition found"
  | .notNavigable => "goto: selection is not a navigable fact"

def text (status : StatusLine) : String := status.body ++ "\n"

theorem isDigit_of_mem_toDigits {number : Nat} {c : Char} (h : c ∈ Nat.toDigits 10 number) : c.isDigit = true :=
  Nat.isDigit_of_mem_toDigits (by decide) (by decide) h

/-- There is no space in a numeral. -/
theorem gap_eq_nil {gap : List Char} {number other : Nat}
    (h : ' ' :: Nat.toDigits 10 number = gap ++ ' ' :: Nat.toDigits 10 other) : gap = [] ∧ number = other := by
  cases gap with
  | nil =>
    have hdigits : Nat.toDigits 10 number ++ [] = Nat.toDigits 10 other ++ [] := by
      rw [List.append_nil, List.append_nil]
      exact (List.cons.inj h).2
    have hends : Json.EndsNumeral [] := by simp [Json.EndsNumeral]
    exact ⟨rfl, (Json.toDigits_append_inj hends hends hdigits).1⟩
  | cons c gap =>
    have hspace : ' ' ∈ Nat.toDigits 10 number := by
      rw [(List.cons.inj h).2]
      exact List.mem_append_right _ List.mem_cons_self
    exact absurd (isDigit_of_mem_toDigits hspace) (by decide)

/-- A numeral behind a space can be told from what stands before it. -/
theorem append_numeral_inj {before other : String} {number otherNumber : Nat}
    (h : before ++ " " ++ toString number = other ++ " " ++ toString otherNumber) :
    before = other ∧ number = otherNumber := by
  have hchars : before.toList ++ ' ' :: Nat.toDigits 10 number =
      other.toList ++ ' ' :: Nat.toDigits 10 otherNumber := by
    have hlists := congrArg String.toList h
    simpa [Nat.toList_repr] using hlists
  rcases List.append_eq_append_iff.1 hchars with ⟨gap, hother, hgap⟩ | ⟨gap, hbefore, hgap⟩
  · obtain ⟨rfl, hnumber⟩ := gap_eq_nil hgap
    exact ⟨String.toList_inj.1 (by simpa using hother.symm), hnumber⟩
  · obtain ⟨rfl, hnumber⟩ := gap_eq_nil hgap
    exact ⟨String.toList_inj.1 (by simpa using hbefore), hnumber.symm⟩

theorem body_names (element : ElementId) (spot : Spot) :
    (names element spot).body = "goto: " ++ element ++ " " ++ spot.words ++ " " ++ toString spot.number := by
  change "goto: " ++ element ++ " " ++ (spot.words ++ " " ++ toString spot.number) = _
  simp only [String.append_assoc]

/-- Whatever the id of the element is, it can be told from its spot. -/
theorem body_names_inj {element other : ElementId} {spot otherSpot : Spot}
    (h : (names element spot).body = (names other otherSpot).body) : element = other ∧ spot = otherSpot := by
  -- An id may hold any words, so the line is read from its end.
  rw [body_names, body_names] at h
  obtain ⟨hbefore, hnumber⟩ := append_numeral_inj h
  have hwords : spot.words = otherSpot.words := by
    have hlast := congrArg (fun text ↦ text.toList.getLast?) hbefore
    simp only [String.toList_append, List.getLast?_append, Spot.getLast?_words, Option.some_or] at hlast
    cases spot <;> cases otherSpot
    · rfl
    · simp at hlast
    · simp at hlast
    · rfl
  rw [hwords, String.append_left_inj, String.append_left_inj, String.append_right_inj] at hbefore
  exact ⟨hbefore, Spot.eq_of_words_of_number hwords hnumber⟩

theorem body_candidates (count : Nat) : (candidates count).body =
    "goto: definitions disagree, sliced to" ++ " " ++ toString count ++ " candidates" := rfl

/-- Lines of different forms end differently, and only those that name an element end in a digit. -/
theorem lastLetter_body (status : StatusLine) :
    status.body.toList.getLast?.filter (!·.isDigit) =
      match status with
      | .candidates _ => some 's'
      | .names _ _ => none
      | .noDefinition => some 'd'
      | .notNavigable => some 't' := by
  cases status with
  | candidates count =>
    rw [body_candidates, String.toList_append, List.getLast?_append]
    simp
  | names element spot =>
    have hdigits : (Nat.toDigits 10 spot.number).getLast? ≠ none :=
      mt List.getLast?_eq_none_iff.1 Nat.toDigits_ne_nil
    obtain ⟨digit, hdigit⟩ := Option.ne_none_iff_exists'.1 hdigits
    have hlast : (names element spot).body.toList.getLast? = some digit := by
      rw [body_names, String.toList_append, List.getLast?_append, Nat.toString_eq_repr, Nat.toList_repr, hdigit,
        Option.some_or]
    simp [hlast, isDigit_of_mem_toDigits (List.mem_of_getLast? hdigit)]
  | noDefinition => decide +kernel
  | notNavigable => decide +kernel

theorem body_injective : Function.Injective body := by
  intro status other h
  have hlast := congrArg (fun text ↦ text.toList.getLast?.filter (!·.isDigit)) h
  simp only [lastLetter_body] at hlast
  cases status <;> cases other <;> simp at hlast
  case candidates.candidates =>
    rw [body_candidates, body_candidates, String.append_left_inj] at h
    rw [(append_numeral_inj h).2]
  case names.names =>
    obtain ⟨rfl, rfl⟩ := body_names_inj h
    rfl
  case noDefinition.noDefinition => rfl
  case notNavigable.notNavigable => rfl

theorem text_injective : Function.Injective text := by
  intro status other h
  exact body_injective ((String.append_left_inj "\n").1 h)

end StatusLine

/-! ## What the line tells -/

/-- The line tells how a navigation ended, and what its report has. -/
structure StatusLine.Tells (listing : Listing) (kind : NavKind) (origin : ElementId) (navigation : Navigation)
    (report : Report) (status : StatusLine) : Prop where
  candidates_iff : (∃ count, status = .candidates count) ↔ navigation = .ambiguous
  /-- The candidates are the definitions, and the targets in the report. -/
  candidates_eq : ∀ count, status = .candidates count →
    2 ≤ count ∧ (∃ selected found, listing.Finds kind origin selected found ∧ found.length = count) ∧
      report.markCount .target = count ∧ report.scroll = none
  names_iff : (∃ element spot, status = .names element spot) ↔ report.scroll.isSome = true
  names_eq : ∀ element spot, status = .names element spot →
    ∃ scroll row, report.scroll = some scroll ∧ listing.rows[scroll.row]? = some row ∧
      element = scroll.element ∧ spot = .ofRow row
  otherwise : (∀ count, status ≠ .candidates count) → (∀ element spot, status ≠ .names element spot) →
    report.scroll = none ∧ report.markCount .target = 0

namespace StatusLine.Tells

variable {listing : Listing} {kind : NavKind} {origin : ElementId} {navigation : Navigation} {report : Report}

theorem of_candidates {selected : Element} {found : List Element}
    (hfinds : listing.Finds kind origin selected found) (htwo : 2 ≤ found.length)
    (hcount : report.markCount .target = found.length) (hscroll : report.scroll = none) :
    Tells listing kind origin .ambiguous report (.candidates found.length) where
  candidates_iff := by simp
  candidates_eq := by
    rintro count ⟨⟩
    exact ⟨htwo, ⟨selected, found, hfinds, rfl⟩, hcount, hscroll⟩
  names_iff := by simp [hscroll]
  names_eq := by simp
  otherwise hcandidates := absurd rfl (hcandidates found.length)

theorem of_scroll {scroll : Scroll} {row : Row} (hscroll : report.scroll = some scroll)
    (hrow : listing.rows[scroll.row]? = some row) :
    Tells listing kind origin .unique report (.names scroll.element (.ofRow row)) where
  candidates_iff := by simp
  candidates_eq := by simp
  names_iff := by simp [hscroll]
  names_eq := by
    rintro element spot ⟨⟩
    exact ⟨scroll, row, hscroll, hrow, rfl, rfl⟩
  otherwise _ hnames := absurd rfl (hnames scroll.element (.ofRow row))

theorem of_nothing {status : StatusLine} (hstatus : status = .noDefinition ∨ status = .notNavigable)
    (hnavigation : navigation ≠ .ambiguous) (hscroll : report.scroll = none)
    (hcount : report.markCount .target = 0) : Tells listing kind origin navigation report status where
  candidates_iff := by rcases hstatus with rfl | rfl <;> simp [hnavigation]
  candidates_eq := by rcases hstatus with rfl | rfl <;> simp
  names_iff := by rcases hstatus with rfl | rfl <;> simp [hscroll]
  names_eq := by rcases hstatus with rfl | rfl <;> simp
  otherwise _ _ := ⟨hscroll, hcount⟩

end StatusLine.Tells

/-- Definitions that disagree are more than one. -/
theorem two_le_length_of_agree_eq_false {elements : List Element} (h : agree elements = false) :
    2 ≤ elements.length := by
  match elements with
  | [] => simp [agree] at h
  | [_] => simp [agree] at h
  | _ :: _ :: rest => simp

/-- An element is in the row at the place that it gives. -/
theorem Listing.WellFormed.getElem?_row {listing : Listing} (hlisting : listing.WellFormed) {element : Element}
    (helement : element ∈ listing.elements) :
    ∃ row, listing.rows[element.row]? = some row ∧ row.index = element.row := by
  obtain ⟨row, hrow, hindex, -⟩ := hlisting.element_row element helement
  obtain ⟨place, hplace⟩ := List.mem_iff_getElem?.1 hrow
  refine ⟨row, ?_, hindex⟩
  rw [← hindex, hlisting.row_index place row hplace, hplace]

namespace Shell

/-- The place of a scroll is the spot of its row. -/
theorem scrollPlace_eq_text {listing : Listing} {scroll : Scroll} {row : Row}
    (hrow : listing.rows[scroll.row]? = some row) (hindex : row.index = scroll.row) :
    scrollPlace listing scroll = (Spot.ofRow row).text := by
  unfold scrollPlace Spot.ofRow
  rw [hrow, Option.bind_some]
  cases hline : row.line with
  | some known => rfl
  | none =>
    rw [← hindex]
    rfl

theorem navigationText_ambiguous (listing : Listing) (transition : Transition) :
    navigationText listing transition .ambiguous =
      (StatusLine.candidates (transition.view.markCount .target)).text := by
  have hend : " candidates\n" = " candidates" ++ "\n" := rfl
  change "goto: definitions disagree, sliced to " ++ toString (transition.view.markCount .target) ++
    " candidates\n" = _
  rw [hend, ← String.append_assoc]
  rfl

theorem navigationText_unique {listing : Listing} {transition : Transition} {scroll : Scroll} {row : Row}
    (hscroll : transition.scroll = some scroll) (hrow : listing.rows[scroll.row]? = some row)
    (hindex : row.index = scroll.row) :
    navigationText listing transition .unique = (StatusLine.names scroll.element (.ofRow row)).text := by
  obtain ⟨view, shown⟩ := transition
  obtain rfl : shown = some scroll := hscroll
  change "goto: " ++ scroll.element ++ " " ++ scrollPlace listing scroll ++ "\n" = _
  rw [scrollPlace_eq_text hrow hindex]
  rfl

end Shell

theorem markCount_clearMarks (listing : Listing) (view : View) (mark : Mark) :
    (Report.ofTransition listing (.to view.clearMarks)).markCount mark = 0 := by
  rw [Report.markCount_eq_countP, List.countP_eq_zero]
  intro element _
  have hempty : view.clearMarks.markOf element.id = none := Std.ExtTreeMap.getElem?_empty
  simp [Transition.to, hempty]

section Tells

variable {listing : Listing} {kind : NavKind} {origin : ElementId} (hlisting : listing.WellFormed)
  (duration : UInt64)

include hlisting

/-- A target is marked once, and the selection does not count unless it is one. -/
theorem markCount_target_goToDefinition {selection : Selection}
    (hresolve : listing.resolve (.navigable kind) origin = some selection) (view : View) :
    (Report.ofTransition listing (goToDefinition listing duration kind origin view).1).markCount .target =
      (targets listing kind selection.addresses).length := by
  have hmarked (element : Element) (helement : element ∈ listing.elements) :
      (goToDefinition listing duration kind origin view).1.view.markOf element.id = some .target ↔
        element ∈ targets listing kind selection.addresses := by
    have htargets : ∀ target ∈ targets listing kind selection.addresses, target ∈ listing.elements :=
      fun target htarget ↦ (mem_targets.1 htarget).1
    rw [markOf_goToDefinition_eq_some_iff hresolve duration view hlisting, ← List.mem_map]
    simp only [and_true, reduceCtorEq, and_false, or_false]
    exact ⟨hlisting.mem_of_id_mem htargets helement, List.mem_map_of_mem⟩
  rw [Report.markCount_eq_countP, targets, Listing.tagged, List.filter_filter, ← List.countP_eq_length_filter]
  refine List.countP_congr fun element helement ↦ ?_
  rw [decide_eq_true_iff, hmarked element helement, mem_targets, Bool.and_eq_true, decide_eq_true_iff]
  simp only [helement, true_and, and_comm]

/-- The line that is printed, and what it tells. -/
theorem exists_status_goToDefinition (kind : NavKind) (origin : ElementId) :
    let ended := goToDefinition listing duration kind origin .initial
    ∃ status, Shell.navigationText listing ended.1 ended.2 = StatusLine.text status ∧
      status.Tells listing kind origin ended.2 (Report.ofTransition listing ended.1) := by
  intro ended
  rcases outcome_cases listing kind origin with hresolve | ⟨selection, hresolve, houtcome⟩
  · have hended : ended = _ := goToDefinition_unresolved duration .initial hresolve
    rw [hended]
    exact ⟨.notNavigable, rfl, .of_nothing (.inr rfl) (by simp) rfl (markCount_clearMarks listing .initial _)⟩
  have hcount : (Report.ofTransition listing ended.1).markCount .target = _ :=
    markCount_target_goToDefinition hlisting duration hresolve .initial
  rcases houtcome with hfound | ⟨first, rest, hfound, hagree⟩ | hagree
  · have hended : ended = _ := goToDefinition_noTarget duration .initial hresolve hfound
    rw [hfound] at hcount
    rw [hended] at hcount ⊢
    exact ⟨.noDefinition, rfl, .of_nothing (.inl rfl) (by simp) rfl hcount⟩
  · have hended : ended = _ := goToDefinition_unique duration .initial hresolve hfound hagree
    have hfirst : first ∈ targets listing kind selection.addresses := by
      rw [hfound]
      exact List.mem_cons_self
    obtain ⟨row, hrow, hindex⟩ := hlisting.getElem?_row (mem_targets.1 hfirst).1
    have hscroll : ended.1.scroll = some ⟨duration, first.id, first.row⟩ := by rw [hended]
    have hunique : ended.2 = .unique := by rw [hended]
    rw [hunique]
    exact ⟨_, Shell.navigationText_unique hscroll hrow hindex, .of_scroll hscroll hrow⟩
  · have hended : ended = _ := goToDefinition_ambiguous duration .initial hresolve hagree
    -- The line counts the marks of the view, of which the report has all.
    have hwithin := (viewInvariant_goToDefinition hlisting duration kind origin).marksWithin
    have hmarks := Report.markCount_ofTransition ended.1 hlisting hwithin .target
    have hscroll : ended.1.scroll = none := by
      rw [hended]
      rfl
    have hambiguous : ended.2 = .ambiguous := by rw [hended]
    rw [hambiguous, Shell.navigationText_ambiguous, ← hmarks, hcount]
    exact ⟨_, rfl, .of_candidates ((finds_iff_of_resolve hlisting hresolve).2 ⟨rfl, rfl⟩)
      (two_le_length_of_agree_eq_false hagree) hcount hscroll⟩

end Tells

namespace Shell

theorem listing_eq_ok_iff {directory : Directory} {path : String} {listing : Listing} :
    directory.listing path = .ok listing ↔
      ∃ source, directory.readText path = .ok source ∧ Listing.ofText source = .ok listing := by
  unfold Directory.listing
  split
  · rename_i source hread
    simp [hread]
  · rename_i hread
    simp [hread]
  · rename_i hread
    simp [hread]

/-- The log has a line for every element of the listing that repeats an address, in order. -/
theorem map_id_warnings {directory : Directory} {path : String} {listing : Listing}
    (h : directory.listing path = .ok listing) :
    (directory.warnings path).map Warning.id =
      (listing.elements.filter fun element ↦ ¬element.addresses.Nodup).map Element.id := by
  obtain ⟨source, hread, hsource⟩ := listing_eq_ok_iff.1 h
  obtain ⟨outline, houtline, hdraft⟩ := Listing.ofText_eq_ok_iff.1 hsource
  rw [warnings_of_readText hread, Listing.warningsOfText, houtline]
  exact Listing.map_id_warningsOfDraft hdraft

section Run

variable {directory : Directory} {arguments : List String} {path : String} {kind : NavKind}
  {origin : ElementId} {format : Option Format}

/-- A run that goes to a definition from an origin writes the line and the report. -/
theorem outcome_goTo_of_exitCode_eq_zero
    (h : ((Request.apply path (Command.goTo kind).name (some origin) format).outcome directory).exitCode = 0) :
    ∃ settings listing, directory.settings = .ok settings ∧ directory.listing path = .ok listing ∧
      let ended := goToDefinition listing settings.duration kind origin .initial
      (Request.apply path (Command.goTo kind).name (some origin) format).outcome directory =
        ⟨0, (directory.warnings path).map .log ++
          [.remark (navigationText listing ended.1 ended.2),
            .output (reportText listing (format.getD settings.format) ended.1)]⟩ := by
  obtain ⟨settings, listing, operation, command, hsettings, hlisting, hname, hbind⟩ :=
    result_runApply_eq_ok_iff.1 (exitCode_ofAction_eq_zero_iff.1 h)
  obtain rfl := Command.name_injective hname
  refine ⟨settings, listing, hsettings, hlisting, ?_⟩
  rw [outcome_apply_of_bind hsettings hlisting rfl hbind]
  obtain ⟨hneeds, -⟩ | ⟨-, rfl, -⟩ := Command.bind_eq_ok_iff.1 hbind
  · simp [Command.needsOrigin] at hneeds
  · rfl

/-- Every command line that goes to a definition with success prints the report on the navigation. On standard
error stand the log of the elements that repeat an address and behind it one line. The line can be read in one
way only, and so read it tells the truth about the report. -/
theorem status_line_tells_report
    (hparse : Request.parse arguments = .ok (.apply path (Command.goTo kind).name (some origin) format))
    (hzero : (Outcome.ofArguments directory arguments).exitCode = 0) :
    ∃ settings listing, directory.settings = .ok settings ∧ directory.listing path = .ok listing ∧
      let ended := goToDefinition listing settings.duration kind origin .initial
      let report := Report.ofTransition listing ended.1
      (Outcome.ofArguments directory arguments).output =
        withLineEnd (report.render listing (format.getD settings.format)) ∧
      (directory.warnings path).map Warning.id =
        (listing.elements.filter fun element ↦ ¬element.addresses.Nodup).map Element.id ∧
      ∃ status, (∀ logLine, ∀ other : StatusLine,
          (Outcome.ofArguments directory arguments).standardError logLine =
            String.join ((directory.warnings path).map logLine) ++ other.text ↔ other = status) ∧
        status.Tells listing kind origin ended.2 report := by
  have houtcome : Outcome.ofArguments directory arguments = _ := ofArguments_of_parse hparse
  rw [houtcome] at hzero
  obtain ⟨settings, listing, hsettings, hlisting, hwrites⟩ := outcome_goTo_of_exitCode_eq_zero hzero
  obtain ⟨source, -, hread⟩ := listing_eq_ok_iff.1 hlisting
  obtain ⟨status, htext, htells⟩ := exists_status_goToDefinition (.ofText hread) settings.duration kind origin
  refine ⟨settings, listing, hsettings, hlisting, ?_, map_id_warnings hlisting, status, fun logLine other ↦ ?_,
    htells⟩
  · rw [houtcome, hwrites, output_log_append]
    simp [Write.onOutput, reportText]
  · rw [houtcome, hwrites, standardError_log_append, htext]
    simp [Write.onError, StatusLine.text_injective.eq_iff, eq_comm]

/-- A definition is selected that repeats an address, and that is itself one of its two definitions. The log has
it, both definitions are targets in the report, and the line counts both. -/
theorem status_line_tells_report_repeating :
    let arguments := ["apply", "listing", "goto-var", "w"]
    let outcome := Outcome.ofArguments repeatingDirectory arguments
    Request.parse arguments = .ok (.apply "listing" (Command.goTo .binding).name (some "w") none) ∧
    outcome.exitCode = 0 ∧
    (∀ logLine, outcome.standardError logLine =
      logLine ⟨"w", "a,b,a"⟩ ++ "goto: definitions disagree, sliced to 2 candidates\n") ∧
    ∃ report : Report, outcome.output = withLineEnd (report.render repeatingListing .text) ∧
      report.markCount .target = 2 ∧ report.scroll = none := by
  intro arguments outcome
  have hparse : Request.parse arguments =
      .ok (.apply "listing" (Command.goTo .binding).name (some "w") none) := by
    rfl
  have hbind : Command.bind repeatingListing (.goTo .binding) (some "w") =
      .ok ⟨.goTo .binding, some "w"⟩ := by
    decide +kernel
  have houtcome : outcome = (Request.apply "listing" (Command.goTo .binding).name (some "w") none).outcome
      repeatingDirectory := by
    rfl
  have hzero : outcome.exitCode = 0 := by
    rw [houtcome, outcome_apply_of_bind settings_repeatingDirectory listing_repeatingDirectory.1 rfl hbind]
  obtain ⟨settings, listing, hsettings, hlisting, houtput, -, status, hstatus, htells⟩ :=
    status_line_tells_report hparse hzero
  obtain rfl := Except.ok.inj (settings_repeatingDirectory.symm.trans hsettings)
  obtain rfl := Except.ok.inj (listing_repeatingDirectory.1.symm.trans hlisting)
  have hambiguous : (goToDefinition repeatingListing Settings.default.duration .binding "w" .initial).2 =
      .ambiguous := by
    decide +kernel
  obtain ⟨count, rfl⟩ := htells.candidates_iff.2 hambiguous
  obtain ⟨-, hfinds, hcount, hscroll⟩ := htells.candidates_eq count rfl
  have hresolve : repeatingListing.resolve (.navigable .binding) "w" =
      some ⟨⟨"w", none, 1, "", ["a", "b", "a"], [.navigable .binding .definition]⟩, .ofList ["a", "b"]⟩ := by
    decide +kernel
  obtain ⟨source, -, hsource⟩ := listing_eq_ok_iff.1 hlisting
  rw [exists_finds_iff (.ofText hsource) hresolve fun _ found ↦ found.length = count] at hfinds
  obtain rfl : 2 = count := hfinds
  have hline : (StatusLine.candidates 2).text = "goto: definitions disagree, sliced to 2 candidates\n" := by
    decide +kernel
  refine ⟨hparse, hzero, fun logLine ↦ ?_, _, houtput, hcount, hscroll⟩
  rw [(hstatus logLine _).2 rfl, listing_repeatingDirectory.2, hline]
  simp

end Run

end Shell

end DefUse
