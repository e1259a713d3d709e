import DefUse.Proofs.Runs

/-!
# Scripts of one line

A command can be applied by itself, or replayed from a script that holds it alone. Both read the same settings
and the same listing, and differ only in how they come by the operation and in the remarks beside the output.
The main statement is that the two command lines agree on exit code and output for every command; that a
command line which succeeds names a command; and hence that success of the first carries over to the second.
-/

namespace DefUse

namespace Script

/-- What may stand behind the only line of a script. -/
def lineEnds : List String := ["", "\n", "\r\n"]

/-- A line is read no matter how it ends. -/
theorem ofText_line_append {command : Command} {origin : Option ElementId}
    (horigin : ∀ id, origin = some id → IsOrigin id) {ending : String} (hending : ending ∈ lineEnds) :
    ofText (line command.name origin ++ ending) = .ok [⟨command, 1, origin⟩] := by
  obtain ⟨hne, hfeed, hreturn⟩ := line_isLine command horigin
  have hlines : Text.lines (line command.name origin ++ ending).toList =
      [(line command.name origin).toList] := by
    rw [String.toList_append]
    simp only [lineEnds, List.mem_cons, List.not_mem_nil, or_false] at hending
    rcases hending with rfl | rfl | rfl
    · rw [String.toList_empty, List.append_nil, Text.lines_eq_singleton hfeed hne]
    · have h := Text.lines_append_lineFeed hfeed []
      rwa [Text.dropReturn_eq_self hreturn] at h
    · exact Text.lines_append_return hfeed []
  unfold ofText
  rw [hlines]
  exact readLines_numbered [(command, origin)] (by simpa using horigin) 1

end Script

namespace Shell

/-! ## Arguments -/

/-- The option that chooses a format. -/
def formatArguments : Option Format → List String
  | none => []
  | some format => ["--format", format.name]

/-- Arguments that apply one command. Behind a double hyphen no id is taken for an option. -/
def applyArguments (format : Option Format) (listing command : String) (element : Option ElementId) :
    List String :=
  "apply" :: formatArguments format ++ "--" :: listing :: command :: element.toList

/-- Arguments that replay a script. -/
def replayArguments (format : Option Format) (listing script : String) : List String :=
  "replay" :: formatArguments format ++ ["--", listing, script]

theorem sort_formatArguments {grammar : Grammar} (hgrammar : grammar.format = true) (format : Option Format)
    (positionals : List String) :
    Arguments.empty.sort grammar (formatArguments format ++ "--" :: positionals) =
      positionals.foldlM (Arguments.addPositional grammar) ⟨[], format, []⟩ := by
  cases format with
  | none => rfl
  | some format =>
    have hset : Arguments.empty.setFormat grammar format.name = .ok ⟨[], some format, []⟩ := by
      cases format <;> simp [Arguments.setFormat, Arguments.empty, Format.name, Format.ofName?, hgrammar]
    calc Arguments.empty.sort grammar (formatArguments (some format) ++ "--" :: positionals)
        = (Arguments.empty.setFormat grammar format.name >>=
            fun arguments ↦ arguments.sort grammar ("--" :: positionals)) := rfl
      _ = positionals.foldlM (Arguments.addPositional grammar) ⟨[], some format, []⟩ := by
          rw [hset]
          rfl

/-- A subcommand with a format takes it, and then all that stands behind the double hyphen. -/
theorem parse_formatArguments (subcommand : Subcommand) (hformat : subcommand.grammar.format = true)
    (format : Option Format) (positionals : List String) :
    Request.parse (subcommand.name :: (formatArguments format ++ "--" :: positionals)) =
      (positionals.foldlM (Arguments.addPositional subcommand.grammar) ⟨[], format, []⟩ >>=
        subcommand.request) := by
  rw [← sort_formatArguments hformat]
  cases subcommand <;> rfl

/-- An argument that the next slot admits is taken into it. -/
theorem addPositional_of_admits {grammar : Grammar} {arguments : Arguments} {slot : Slot} {slots : List Slot}
    {argument : String} (hslots : grammar.slots.drop arguments.positionals.length = slot :: slots)
    (hadmits : slot.admits argument = true) :
    arguments.addPositional grammar argument =
      .ok { arguments with positionals := arguments.positionals ++ [argument] } := by
  have hslot : grammar.slots[arguments.positionals.length]? = some slot := by
    rw [← List.head?_drop, hslots]
    rfl
  unfold Arguments.addPositional
  rw [hslot]
  exact if_pos hadmits

/-- Arguments that the next slots admit are taken in order. -/
theorem foldlM_addPositional {grammar : Grammar} {slots : List Slot} {positionals : List String}
    (hadmits : List.Forall₂ (fun slot argument ↦ slot.admits argument = true) slots positionals)
    (rest : List Slot) (arguments : Arguments)
    (hslots : grammar.slots.drop arguments.positionals.length = slots ++ rest) :
    positionals.foldlM (Arguments.addPositional grammar) arguments =
      .ok { arguments with positionals := arguments.positionals ++ positionals } := by
  induction hadmits generalizing arguments with
  | nil =>
    rw [List.append_nil]
    rfl
  | @cons slot argument slots positionals hfirst _ ih =>
    have hnext : grammar.slots.drop (arguments.positionals ++ [argument]).length = slots ++ rest := by
      rw [List.length_append, ← List.drop_drop, hslots]
      rfl
    rw [List.foldlM_cons, addPositional_of_admits hslots hfirst]
    exact (ih _ hnext).trans (by rw [List.append_assoc, List.singleton_append])

theorem Slot.admits_path {path : String} (hpath : path ≠ "") : Slot.admits .path path = true := by
  simp [Slot.admits, hpath]

theorem Slot.admits_word (word : String) : Slot.admits .word word = true := rfl

theorem parse_applyArguments (format : Option Format) (listing command : String)
    (element : Option ElementId) :
    Request.parse (applyArguments format listing command element) =
      if listing = "" then .error .usage else .ok (.apply listing command element format) := by
  refine (parse_formatArguments .apply rfl format _).trans ?_
  by_cases hlisting : listing = ""
  · rw [if_pos hlisting, hlisting]
    rfl
  · have hpath := Slot.admits_path hlisting
    have hcommand := Slot.admits_word command
    rw [if_neg hlisting]
    cases element with
    | none =>
      rw [Option.toList_none, foldlM_addPositional (.cons hpath (.cons hcommand .nil)) [.word] _ rfl]
      rfl
    | some id =>
      have helement := Slot.admits_word id
      rw [Option.toList_some,
        foldlM_addPositional (.cons hpath (.cons hcommand (.cons helement .nil))) [] _ rfl]
      rfl

theorem parse_replayArguments (format : Option Format) (listing : String) {script : String}
    (hscript : script ≠ "") :
    Request.parse (replayArguments format listing script) =
      if listing = "" then .error .usage else .ok (.replay listing script format false) := by
  refine (parse_formatArguments .replay rfl format _).trans ?_
  by_cases hlisting : listing = ""
  · rw [if_pos hlisting, hlisting]
    rfl
  · have hpaths : List.Forall₂ (fun slot argument ↦ Slot.admits slot argument = true) [.path, .path]
        [listing, script] :=
      .cons (Slot.admits_path hlisting) (.cons (Slot.admits_path hscript) .nil)
    rw [if_neg hlisting, foldlM_addPositional hpaths [] _ rfl]
    rfl

/-! ## Runs -/

section Run

variable {directory : Directory} {path script : String} {command : Command} {element : Option ElementId}

/-- Applying a command and replaying it alone come to the same problem, or both to none. -/
theorem result_runReplay_line (hscript : directory.script script = .ok [⟨command, 1, element⟩])
    (format : Option Format) :
    (runReplay directory path script format false).result =
      (runApply directory path command.name element format).result := by
  rw [result_runReplay, result_runApply, hscript, Command.ofName_name]
  refine bind_congr fun settings ↦ bind_congr fun listing ↦ ?_
  change (Script.bind listing [⟨command, 1, element⟩] >>= fun _ ↦ .ok ()) =
    (command.bind listing element >>= fun _ ↦ .ok ())
  cases hbind : command.bind listing element <;> simp [Script.bind, hbind, bind, Except.bind]

/-- Applying a command and replaying it alone end with the same exit code and the same output. -/
theorem outcome_replay_line (hscript : directory.script script = .ok [⟨command, 1, element⟩])
    (format : Option Format) :
    let replayed := (Request.replay path script format false).outcome directory
    let applied := (Request.apply path command.name element format).outcome directory
    replayed.exitCode = applied.exitCode ∧ replayed.output = applied.output := by
  intro replayed applied
  have hresult : (runReplay directory path script format false).result = _ :=
    result_runReplay_line hscript format
  cases happly : (runApply directory path command.name element format).result with
  | error problem =>
    have hreplayed : replayed = _ := outcome_of_error (hresult.trans happly)
    have happlied : applied = _ := outcome_of_error happly
    rw [hreplayed, happlied, output_log_append, output_log_append]
    exact ⟨rfl, rfl⟩
  | ok _ =>
    obtain ⟨settings, listing, operation, known, hsettings, hlisting, hname, hbind⟩ :=
      result_runApply_eq_ok_iff.1 happly
    obtain rfl := Command.name_injective hname
    have hoperations : Script.bind listing [⟨command, 1, element⟩] = .ok [operation] := by
      simp [Script.bind, hbind, bind, Except.bind]
    have hreplayed : replayed = _ := outcome_replay_of_bind hsettings hlisting hscript hoperations
    have happlied : applied = _ := outcome_apply_of_bind hsettings hlisting rfl hbind
    rw [hreplayed, happlied, output_log_append, output_log_append, join_onOutput_applyWrites,
      join_onOutput_replayWrites]
    exact ⟨rfl, rfl⟩

end Run

/-! ## Command lines -/

section CommandLine

variable {directory : Directory} {script command ending : String} {element : Option ElementId}

theorem readText_of_read {path text : String} (h : directory.read path = .ok text.toUTF8.data.toList) :
    directory.readText path = .ok text := by
  have hdecode : String.fromUTF8? ⟨text.toUTF8.data.toList.toArray⟩ = some text := by
    simp [String.fromUTF8?, text.isValidUTF8]
    rfl
  unfold Directory.readText
  simp only [h, hdecode]

theorem listing_of_readText {path text : String} (h : directory.readText path = .ok text) :
    directory.listing path = Listing.ofText text := by
  unfold Directory.listing
  rw [h]

theorem warnings_of_readText {path text : String} (h : directory.readText path = .ok text) :
    directory.warnings path = Listing.warningsOfText text := by
  unfold Directory.warnings
  rw [h]

/-- The script that holds one line with a command has that step. -/
theorem script_eq_of_readText {known : Command} (helement : ∀ id, element = some id → Script.IsOrigin id)
    (hending : ending ∈ Script.lineEnds)
    (hread : directory.readText script = .ok (Script.line known.name element ++ ending)) :
    directory.script script = .ok [⟨known, 1, element⟩] := by
  unfold Directory.script
  rw [hread]
  exact Script.ofText_line_append helement hending

theorem ofArguments_applyArguments (format : Option Format) (listing : String) :
    Outcome.ofArguments directory (applyArguments format listing command element) =
      if listing = "" then Outcome.ofRefusal .usage
      else (Request.apply listing command element format).outcome directory := by
  unfold Outcome.ofArguments
  rw [parse_applyArguments]
  by_cases hlisting : listing = ""
  · simp only [if_pos hlisting]
  · simp only [if_neg hlisting]

theorem ofArguments_replayArguments (hscript : script ≠ "") (format : Option Format) (listing : String) :
    Outcome.ofArguments directory (replayArguments format listing script) =
      if listing = "" then Outcome.ofRefusal .usage
      else (Request.replay listing script format false).outcome directory := by
  unfold Outcome.ofArguments
  rw [parse_replayArguments format listing hscript]
  by_cases hlisting : listing = ""
  · simp only [if_pos hlisting]
  · simp only [if_neg hlisting]

/-- Only commands are applied with success. -/
theorem exists_name_of_exitCode_eq_zero {format : Option Format} {listing : String}
    (h : (Outcome.ofArguments directory (applyArguments format listing command element)).exitCode = 0) :
    ∃ known : Command, command = known.name := by
  rw [ofArguments_applyArguments] at h
  split at h
  · simp [Outcome.ofRefusal, Refusal.exitCode] at h
  · obtain ⟨_, _, _, known, _, _, hname, _⟩ :=
      result_runApply_eq_ok_iff.1 (exitCode_ofAction_eq_zero_iff.1 h)
    exact ⟨known, hname⟩

/-- Applying a command and replaying a script whose only line is the command end with the same exit code and
the same output, in every directory, for every listing, format and origin that can be printed. If the command
line that applies succeeds, what it applies is a command, so that the replay succeeds with the same
output. -/
theorem apply_agrees_with_replay (format : Option Format) (listing : String) (hscript : script ≠ "")
    (helement : ∀ id, element = some id → Script.IsOrigin id) (hending : ending ∈ Script.lineEnds)
    (hread : directory.readText script = .ok (Script.line command element ++ ending)) :
    let applied := Outcome.ofArguments directory (applyArguments format listing command element)
    let replayed := Outcome.ofArguments directory (replayArguments format listing script)
    (applied.exitCode = 0 → replayed.exitCode = 0 ∧ replayed.output = applied.output) ∧
    ((∃ known : Command, command = known.name) →
      replayed.exitCode = applied.exitCode ∧ replayed.output = applied.output) := by
  intro applied replayed
  have hsame : (∃ known : Command, command = known.name) →
      replayed.exitCode = applied.exitCode ∧ replayed.output = applied.output := by
    rintro ⟨known, rfl⟩
    have hsteps := script_eq_of_readText helement hending hread
    simp only [applied, replayed, ofArguments_applyArguments, ofArguments_replayArguments hscript]
    split
    · exact ⟨rfl, rfl⟩
    · exact outcome_replay_line hsteps format
  refine ⟨fun hzero ↦ ?_, hsame⟩
  obtain ⟨hcode, houtput⟩ := hsame (exists_name_of_exitCode_eq_zero hzero)
  exact ⟨hcode.trans hzero, houtput⟩

/-- A directory with the sample and a script that goes to the definition of its use. -/
def sampleDirectory : Directory where
  read path :=
    if path = "listing" then .ok Listing.sampleSource.toUTF8.data.toList
    else if path = "script" then .ok "goto-var u\n".toUTF8.data.toList
    else .error .notFound

theorem listing_sampleDirectory : sampleDirectory.listing "listing" = .ok Listing.sampleListing :=
  calc sampleDirectory.listing "listing"
      = Listing.ofText Listing.sampleSource :=
        listing_of_readText (readText_of_read (by simp [sampleDirectory]))
    _ = .ok Listing.sampleListing := Listing.ofText_sampleSource

/-- In the directory of the sample both command lines succeed with the same output. -/
theorem apply_agrees_with_replay_sample :
    sampleDirectory.readText "script" = .ok (Script.line "goto-var" (some "u") ++ "\n") ∧
    (Outcome.ofArguments sampleDirectory
      (applyArguments (some .json) "listing" "goto-var" (some "u"))).exitCode = 0 ∧
    (Outcome.ofArguments sampleDirectory (replayArguments (some .json) "listing" "script")).exitCode = 0 ∧
    (Outcome.ofArguments sampleDirectory (replayArguments (some .json) "listing" "script")).output =
      (Outcome.ofArguments sampleDirectory
        (applyArguments (some .json) "listing" "goto-var" (some "u"))).output := by
  have hread : sampleDirectory.readText "script" = .ok (Script.line "goto-var" (some "u") ++ "\n") :=
    readText_of_read (by simp [sampleDirectory, Script.line])
  have helement : ∀ id, some "u" = some id → Script.IsOrigin id := by
    intro id hid
    rw [← Option.some.inj hid]
    decide +kernel
  have hsettings : sampleDirectory.settings = .ok .default := by
    simp [Directory.settings, Directory.readText, Directory.settingsPath, sampleDirectory]
  have hbind : Command.bind Listing.sampleListing (.goTo .binding) (some "u") =
      .ok ⟨.goTo .binding, some "u"⟩ := by
    decide +kernel
  have hzero : (Outcome.ofArguments sampleDirectory
      (applyArguments (some .json) "listing" "goto-var" (some "u"))).exitCode = 0 := by
    rw [ofArguments_applyArguments, if_neg (by decide)]
    exact congrArg Outcome.exitCode (outcome_apply_of_bind hsettings listing_sampleDirectory rfl hbind)
  exact ⟨hread, hzero,
    (apply_agrees_with_replay (some .json) "listing" (by decide) helement (by decide) hread).1 hzero⟩

/-- A text of two definitions, of which the second repeats an address. -/
def repeatingSource : String :=
  "\x7b\"rows\":[\x7b\"line\":1,\"elements\":[" ++
    "\x7b\"id\":\"d\",\"class\":\"DENV-DEF\",\"address\":\"a\"\x7d]\x7d," ++
  "\x7b\"elements\":[\x7b\"id\":\"w\",\"class\":\"DENV-DEF\",\"address\":\"a,b,a\"\x7d]\x7d]\x7d"

def repeatingListing : Listing :=
  .indexed [⟨0, some 1, "", ["d"]⟩, ⟨1, none, "", ["w"]⟩]
    [⟨"d", none, 0, "", ["a"], [.navigable .binding .definition]⟩,
     ⟨"w", none, 1, "", ["a", "b", "a"], [.navigable .binding .definition]⟩]

def repeatingDirectory : Directory where
  read path :=
    if path = "listing" then .ok repeatingSource.toUTF8.data.toList else .error .notFound

theorem settings_repeatingDirectory : repeatingDirectory.settings = .ok .default := by
  simp [Directory.settings, Directory.readText, Directory.settingsPath, repeatingDirectory]

/-- The listing is taken as it is, and the log has a warning on it. -/
theorem listing_repeatingDirectory :
    repeatingDirectory.listing "listing" = .ok repeatingListing ∧
      repeatingDirectory.warnings "listing" = [⟨"w", "a,b,a"⟩] := by
  have hread : repeatingDirectory.readText "listing" = .ok repeatingSource :=
    readText_of_read (by simp [repeatingDirectory])
  rw [listing_of_readText hread, warnings_of_readText hread]
  constructor <;> decide +kernel

end CommandLine

end Shell

end DefUse
