import DefUse.Proofs.OneLineScript
import DefUse.Proofs.Scrolling
import DefUse.Proofs.TextWords

/-!
# Traces and cut scripts

A script can be cut behind the line of any of its steps. What is left reads as the steps up to that one, since
lines are read one by one and steps know the lines that they stand on. The main statement is that a traced
replay prints, for one step after the other, a heading and what the replay of the script cut there prints.
-/

namespace DefUse

/-! ## Cut texts -/

namespace Text

/-- The first lines of a text, with what ends them. -/
def keepLines : Nat → List Char → List Char
  | 0, _ => []
  | count + 1, text =>
    match splitFirst '\n' text with
    | none => text
    | some (line, rest) => line ++ '\n' :: keepLines count rest

theorem keepLines_prefix (count : Nat) (text : List Char) : keepLines count text <+: text := by
  induction count generalizing text with
  | zero => exact List.nil_prefix
  | succ count ih =>
    rw [keepLines]
    split
    · exact List.prefix_rfl
    · rename_i line rest hsplit
      rw [(splitFirst_eq_some hsplit).2]
      exact (List.prefix_append_right_inj line).2 (List.cons_prefix_cons.2 ⟨rfl, ih rest⟩)

theorem lines_keepLines (count : Nat) (text : List Char) :
    lines (keepLines count text) = (lines text).take count := by
  induction count generalizing text with
  | zero => rfl
  | succ count ih =>
    rw [keepLines]
    split
    · rename_i hsplit
      -- Without a line feed there is one line at most.
      by_cases hnil : text = []
      · rw [hnil]
        rfl
      · rw [lines_eq_singleton (splitFirst_eq_none hsplit) hnil, List.take_succ_cons, List.take_nil]
    · rename_i line rest hsplit
      obtain ⟨hline, rfl⟩ := splitFirst_eq_some hsplit
      rw [lines_append_lineFeed hline, lines_append_lineFeed hline, ih, List.take_succ_cons]

end Text

/-! ## Cut scripts -/

namespace Script

/-- The script up to the end of the line that a step stands on. -/
def cutAfter (step : Step) (source : String) : String :=
  String.ofList (Text.keepLines step.line source.toList)

theorem line_of_readLine {number : Nat} {text : List Char} {step : Step}
    (h : readLine number text = .ok (some step)) : step.line = number := by
  unfold readLine at h
  simp only at h
  split at h
  · simp at h
  · split at h
    · simp at h
    · obtain ⟨command, _, hstep⟩ := except_bind_eq_ok_iff.1 h
      rw [← Option.some.inj (Except.ok.inj hstep)]

/-- The lines up to that of a step read as the steps up to that one. -/
theorem readLines_take {lines : List (List Char)} {first : Nat} {before after : List Step} {step : Step}
    (h : readLines (lines.zipIdx first) = .ok (before ++ step :: after)) :
    ∃ count, step.line = first + count ∧
      readLines ((lines.take (count + 1)).zipIdx first) = .ok (before ++ [step]) := by
  induction lines generalizing first before with
  | nil => simp [readLines] at h
  | cons line lines ih =>
    obtain ⟨head, hhead, h⟩ := except_bind_eq_ok_iff.1 h
    obtain ⟨tail, htail, h⟩ := except_bind_eq_ok_iff.1 h
    have hsteps := Except.ok.inj h
    -- Reading on behind the first line adds its step in front.
    have hread {count : Nat} {steps : List Step}
        (hrest : readLines ((lines.take count).zipIdx (first + 1)) = .ok steps) :
        readLines (((line :: lines).take (count + 1)).zipIdx first) = .ok (head.toList ++ steps) := by
      rw [List.take_succ_cons, List.zipIdx_cons, readLines, hhead, hrest]
      rfl
    cases head with
    | none =>
      rw [Option.toList_none, List.nil_append] at hsteps
      obtain ⟨count, hline, hrest⟩ := ih (hsteps ▸ htail)
      exact ⟨count + 1, by omega, hread hrest⟩
    | some known =>
      cases before with
      | nil =>
        obtain ⟨rfl, rfl⟩ := List.cons.inj hsteps
        exact ⟨0, line_of_readLine hhead, hread rfl⟩
      | cons other before =>
        obtain ⟨rfl, rfl⟩ := List.cons.inj hsteps
        obtain ⟨count, hline, hrest⟩ := ih htail
        exact ⟨count + 1, by omega, hread hrest⟩

theorem ofText_cutAfter {source : String} {steps : List Step} (h : ofText source = .ok steps) {place : Nat}
    {step : Step} (hstep : steps[place]? = some step) :
    ofText (cutAfter step source) = .ok (steps.take (place + 1)) := by
  have htake : steps.take (place + 1) = steps.take place ++ [step] := by
    rw [List.take_add_one, hstep, Option.toList_some]
  have hsplit : steps = steps.take place ++ step :: steps.drop (place + 1) := by
    calc steps = steps.take (place + 1) ++ steps.drop (place + 1) := (List.take_append_drop _ _).symm
      _ = steps.take place ++ step :: steps.drop (place + 1) := by
        rw [htake, List.append_assoc, List.singleton_append]
  unfold ofText at h
  rw [hsplit] at h
  obtain ⟨count, hline, hread⟩ := readLines_take h
  unfold ofText cutAfter
  rw [String.toList_ofList, Text.lines_keepLines, hline, Nat.add_comm, hread, htake]

theorem bind_take {listing : Listing} {steps : List Step} {operations : List Operation}
    (h : bind listing steps = .ok operations) (count : Nat) :
    bind listing (steps.take count) = .ok (operations.take count) := by
  obtain ⟨hbinds, rfl⟩ := bind_eq_ok_iff.1 h
  rw [bind_eq_ok_iff, List.map_take]
  exact ⟨fun step hstep ↦ hbinds step (List.mem_of_mem_take hstep), rfl⟩

end Script

namespace Shell

/-! ## Cut scripts in a directory -/

/-- The directory with a text at a path, in place of what was there. -/
def Directory.withText (directory : Directory) (path text : String) : Directory where
  read other := if other = path then .ok text.toUTF8.data.toList else directory.read other

section Directory

variable (directory : Directory) {path : String} (text : String)

theorem readText_withText (path : String) : (directory.withText path text).readText path = .ok text :=
  readText_of_read (if_pos rfl)

theorem readText_withText_of_ne {other : String} (h : path ≠ other) :
    (directory.withText path text).readText other = directory.readText other := by
  unfold Directory.readText Directory.withText
  simp only [if_neg h.symm]

theorem settings_withText (h : path ≠ Directory.settingsPath) :
    (directory.withText path text).settings = directory.settings := by
  unfold Directory.settings
  rw [readText_withText_of_ne directory text h]

theorem listing_withText {listing : String} (h : path ≠ listing) :
    (directory.withText path text).listing listing = directory.listing listing := by
  unfold Directory.listing
  rw [readText_withText_of_ne directory text h]

end Directory

theorem script_eq_ok_iff {directory : Directory} {path : String} {steps : List Step} :
    directory.script path = .ok steps ↔
      ∃ source, directory.readText path = .ok source ∧ Script.ofText source = .ok steps := by
  unfold Directory.script
  split
  · rename_i source hread
    simp [hread]
  · rename_i hread
    simp [hread]
  · rename_i hread
    simp [hread]

/-! ## Replays -/

theorem operationHeading_eq (operation : Operation) :
    operationHeading operation = "## " ++ Script.line operation.command.name operation.origin ++ "\n\n" := by
  unfold operationHeading Script.line
  cases operation.origin with
  | none => rfl
  | some origin => simp only [String.append_assoc]

/-- A trace prints a heading for every step, and behind it what the replay of the script cut there prints. -/
theorem traceText_eq_join {listing : Listing} {format : Format} {duration : UInt64} {steps : List Step}
    {operations : List Operation} (hoperations : Script.bind listing steps = .ok operations)
    {printed : Step → String}
    (hprinted : ∀ place step, steps[place]? = some step →
      printed step = replayText listing format duration (operations.take (place + 1)) false) :
    replayText listing format duration operations true =
      String.join (List.zipWith (fun step operation ↦ "## " ++
        Script.line operation.command.name operation.origin ++ "\n\n" ++ printed step) steps operations) := by
  obtain ⟨-, rfl⟩ := Script.bind_eq_ok_iff.1 hoperations
  rw [replayText]
  refine congrArg String.join (List.ext_getElem? ?_)
  intro place
  rw [List.getElem?_map, Operation.getElem?_trace_replay, List.getElem?_zipWith, List.getElem?_map]
  cases hstep : steps[place]? with
  | none => rfl
  | some step =>
    simp only [Option.map_some, operationHeading_eq, hprinted place step hstep, replayText]

section CommandLine

variable {directory : Directory} {arguments : List String} {listing script : String} {format : Option Format}
  {trace : Bool} (hparse : Request.parse arguments = .ok (.replay listing script format trace))

include hparse

theorem ofArguments_replay_of_bind {settings : Settings} {known : Listing} {steps : List Step}
    {operations : List Operation} (hsettings : directory.settings = .ok settings)
    (hlisting : directory.listing listing = .ok known) (hscript : directory.script script = .ok steps)
    (hbind : Script.bind known steps = .ok operations) :
    let outcome := Outcome.ofArguments directory arguments
    outcome.exitCode = 0 ∧ outcome.output =
      replayText known (format.getD settings.format) settings.duration operations trace := by
  intro outcome
  have houtcome : outcome = _ :=
    (ofArguments_of_parse hparse).trans (outcome_replay_of_bind hsettings hlisting hscript hbind)
  rw [houtcome, output_log_append]
  exact ⟨rfl, join_onOutput_replayWrites ..⟩

end CommandLine

/-- The replay of a cut script ends where the replay of the first operations ends. -/
theorem ofArguments_withText_cutAfter {directory : Directory} {arguments : List String}
    {listing spare source : String} {format : Option Format} {settings : Settings} {known : Listing}
    {steps : List Step} {operations : List Operation}
    (hparse : Request.parse arguments = .ok (.replay listing spare format false))
    (hlisting : spare ≠ listing) (hspare : spare ≠ Directory.settingsPath)
    (hsettings : directory.settings = .ok settings) (hknown : directory.listing listing = .ok known)
    (hsteps : Script.ofText source = .ok steps) (hbind : Script.bind known steps = .ok operations)
    {place : Nat} {step : Step} (hstep : steps[place]? = some step) :
    let outcome := Outcome.ofArguments (directory.withText spare (Script.cutAfter step source)) arguments
    outcome.exitCode = 0 ∧ outcome.output = replayText known (format.getD settings.format)
      settings.duration (operations.take (place + 1)) false := by
  have hsame := (settings_withText directory (Script.cutAfter step source) hspare).trans hsettings
  have hthere := (listing_withText directory (Script.cutAfter step source) hlisting).trans hknown
  have hscript := script_eq_ok_iff.2 ⟨_, readText_withText directory (Script.cutAfter step source) spare,
    Script.ofText_cutAfter hsteps hstep⟩
  exact ofArguments_replay_of_bind hparse hsame hthere hscript (Script.bind_take hbind (place + 1))

/-- If a script is replayed with success, the traced replay succeeds as well. It prints for each step the
heading of its operation and what the replay prints of the script cut after the step, which is a part of the
script from its start and holds the steps up to this one. The cut script is read in the same directory, at any
path but those of the listing and the settings. -/
theorem traced_replay_prints_cut_replays {directory : Directory} {listing script spare : String}
    {format : Option Format} {plain traced short : List String}
    (hplain : Request.parse plain = .ok (.replay listing script format false))
    (htraced : Request.parse traced = .ok (.replay listing script format true))
    (hshort : Request.parse short = .ok (.replay listing spare format false))
    (hlisting : spare ≠ listing) (hsettings : spare ≠ Directory.settingsPath)
    (hzero : (Outcome.ofArguments directory plain).exitCode = 0) :
    ∃ source known steps operations, directory.readText script = .ok source ∧
      directory.listing listing = .ok known ∧ Script.ofText source = .ok steps ∧
      Script.bind known steps = .ok operations ∧ steps.length = operations.length ∧
      let cut (step : Step) : Outcome :=
        Outcome.ofArguments (directory.withText spare (Script.cutAfter step source)) short
      (∀ place step, steps[place]? = some step →
        (Script.cutAfter step source).toList <+: source.toList ∧
        Script.ofText (Script.cutAfter step source) = .ok (steps.take (place + 1)) ∧
        (cut step).exitCode = 0) ∧
      (Outcome.ofArguments directory traced).exitCode = 0 ∧
      (Outcome.ofArguments directory traced).output =
        String.join (List.zipWith (fun step operation ↦ "## " ++
          Script.line operation.command.name operation.origin ++ "\n\n" ++ (cut step).output)
          steps operations) := by
  rw [ofArguments_of_parse hplain] at hzero
  obtain ⟨settings, known, steps, operations, hloaded, hknown, hscript, hbind⟩ :=
    result_runReplay_eq_ok_iff.1 (exitCode_ofAction_eq_zero_iff.1 hzero)
  obtain ⟨source, hread, hsteps⟩ := script_eq_ok_iff.1 hscript
  have hlength : steps.length = operations.length := by
    rw [(Script.bind_eq_ok_iff.1 hbind).2, List.length_map]
  refine ⟨source, known, steps, operations, hread, hknown, hsteps, hbind, hlength, ?_⟩
  intro cut
  obtain ⟨hcode, houtput⟩ := ofArguments_replay_of_bind htraced hloaded hknown hscript hbind
  have hcut (place : Nat) (step : Step) (hstep : steps[place]? = some step) :=
    ofArguments_withText_cutAfter hshort hlisting hsettings hloaded hknown hsteps hbind hstep
  refine ⟨?_, hcode, ?_⟩
  · intro place step hstep
    refine ⟨?_, Script.ofText_cutAfter hsteps hstep, (hcut place step hstep).1⟩
    rw [Script.cutAfter, String.toList_ofList]
    exact Text.keepLines_prefix _ _
  · rw [houtput]
    exact traceText_eq_join hbind fun place step hstep ↦ (hcut place step hstep).2

/-- A script with a comment, a blank line and an origin that is not needed. -/
def sampleScript : String := "# slice, then go\nsli-var g\r\n\n  goto-var u # there\nunslice u"

/-- The sample with the script. Cut scripts are put beside it. -/
theorem traced_replay_prints_cut_replays_sample :
    let directory := sampleDirectory.withText "steps" sampleScript
    let cut (text : String) : String :=
      (Outcome.ofArguments (directory.withText "part" text) ["replay", "listing", "part"]).output
    (Outcome.ofArguments directory ["replay", "listing", "steps"]).exitCode = 0 ∧
    (Outcome.ofArguments directory ["replay", "--trace", "listing", "steps"]).output =
      "## sli-var g\n\n" ++ cut "# slice, then go\nsli-var g\r\n" ++
      ("## goto-var u\n\n" ++ cut "# slice, then go\nsli-var g\r\n\n  goto-var u # there\n") ++
      ("## unslice\n\n" ++ cut sampleScript) := by
  intro directory cut
  let steps : List Step :=
    [⟨.highlight .slice .binding, 2, some "g"⟩, ⟨.goTo .binding, 4, some "u"⟩, ⟨.unslice, 5, some "u"⟩]
  let operations : List Operation :=
    [⟨.highlight .slice .binding, some "g"⟩, ⟨.goTo .binding, some "u"⟩, ⟨.unslice, none⟩]
  have hread : directory.readText "steps" = .ok sampleScript := readText_withText _ _ _
  have hsteps : Script.ofText sampleScript = .ok steps := by
    decide +kernel
  have hlisting : directory.listing "listing" = .ok Listing.sampleListing :=
    (listing_withText _ _ (by decide)).trans listing_sampleDirectory
  have hbind : Script.bind Listing.sampleListing steps = .ok operations := by
    decide +kernel
  have hsettings : directory.settings = .ok .default := by
    rw [settings_withText _ _ (by decide)]
    simp [Directory.settings, Directory.readText, Directory.settingsPath, sampleDirectory]
  have hparse : Request.parse ["replay", "listing", "steps"] =
      .ok (.replay "listing" "steps" none false) := by
    rfl
  have htraced : Request.parse ["replay", "--trace", "listing", "steps"] =
      .ok (.replay "listing" "steps" none true) := by
    rfl
  have hshort : Request.parse ["replay", "listing", "part"] = .ok (.replay "listing" "part" none false) := by
    rfl
  obtain ⟨hzero, -⟩ := ofArguments_replay_of_bind hparse hsettings hlisting
    (script_eq_ok_iff.2 ⟨_, hread, hsteps⟩) hbind
  obtain ⟨source, known, others, bound, hsource, hknown, hothers, hbound, -, -, -, houtput⟩ :=
    traced_replay_prints_cut_replays hparse htraced hshort (by decide) (by decide) hzero
  obtain rfl := Except.ok.inj (hread.symm.trans hsource)
  obtain rfl := Except.ok.inj (hsteps.symm.trans hothers)
  obtain rfl := Except.ok.inj (hlisting.symm.trans hknown)
  obtain rfl := Except.ok.inj (hbind.symm.trans hbound)
  have hcuts : steps.map (Script.cutAfter · sampleScript) =
      ["# slice, then go\nsli-var g\r\n", "# slice, then go\nsli-var g\r\n\n  goto-var u # there\n",
        sampleScript] := by
    decide +kernel
  have hheadings : operations.map operationHeading =
      ["## sli-var g\n\n", "## goto-var u\n\n", "## unslice\n\n"] := by
    decide +kernel
  refine ⟨hzero, houtput.trans ?_⟩
  simp only [steps, operations, List.map_cons, List.map_nil, List.cons.injEq, and_true,
    operationHeading_eq] at hcuts hheadings
  simp only [List.zipWith, steps, operations, hcuts, hheadings, cut, String.join, List.foldl,
    String.empty_append]

end Shell

end DefUse
