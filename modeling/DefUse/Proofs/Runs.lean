import DefUse.Proofs.ScriptPrinting
import DefUse.Shell.Run

/-!
# What runs write

A run is one action, and writes as it goes on. This module says what comes out of it as a whole. If every stage
of a request succeeds, the run prints what the request asks for; if one does not, the run has written nothing
but the warnings on its listing, and what it writes then is the advice on the problem.
-/

namespace DefUse.Shell

/-! ## Actions in turn -/

namespace Action

variable {α β : Type}

theorem of_ok_bind (value : α) (next : α → Action β) : (of (.ok value) >>= next) = next value := rfl

theorem mk_ok_bind (writes : List Write) (value : α) (next : α → Action β) :
    ((⟨writes, .ok value⟩ : Action α) >>= next) = ⟨writes ++ (next value).writes, (next value).result⟩ := rfl

theorem result_bind (action : Action α) (next : α → Action β) :
    (action >>= next).result = action.result >>= fun value ↦ (next value).result := by
  rcases action with ⟨writes, _ | _⟩ <;> rfl

/-- If the action comes to a problem, it has written nothing but the warnings. -/
def FailsQuietly (logged : List Warning) (action : Action α) : Prop :=
  ∀ problem, action.result = .error problem → action.writes = logged.map .log

theorem failsQuietly_of_ok {logged : List Warning} {action : Action α} {value : α}
    (h : action.result = .ok value) : action.FailsQuietly logged := by
  intro problem hproblem
  rw [h] at hproblem
  contradiction

theorem FailsQuietly.bind {logged : List Warning} {first : Action α} {next : α → Action β}
    (hfirst : first.writes = logged.map .log) (hnext : ∀ value, (next value).FailsQuietly []) :
    (first >>= next).FailsQuietly logged := by
  intro problem hproblem
  rcases first with ⟨writes, problem | value⟩
  · exact hfirst
  · change writes ++ (next value).writes = _
    rw [hnext value problem hproblem, List.map_nil, List.append_nil]
    exact hfirst

end Action

open DefUse.Shell.Action (FailsQuietly failsQuietly_of_ok)

/-- Every step is acted on, in the order of the trace, and the last transition comes out. -/
theorem replayEach_eq {listing : Listing} {duration : UInt64} {onStep : Operation → Transition → Action Unit}
    (hstep : ∀ operation transition, (onStep operation transition).result = .ok ()) (current : Transition)
    (operations : List Operation) :
    replayEach listing duration onStep current operations =
      ⟨(Operation.trace listing duration current.view operations).flatMap fun step ↦
          (onStep step.1 step.2).writes,
        .ok (operations.foldl (fun transition operation ↦ operation.apply listing duration transition.view)
          current)⟩ := by
  induction operations generalizing current with
  | nil => rfl
  | cons operation rest ih =>
    have hbind (action : Action Unit) (next : Action Transition) (h : action.result = .ok ()) :
        (action >>= fun _ ↦ next) = ⟨action.writes ++ next.writes, next.result⟩ := by
      rcases action with ⟨writes, problem | value⟩
      · contradiction
      · rfl
    rw [replayEach, hbind _ _ (hstep _ _), ih]
    rfl

/-! ## Runs as stages -/

/-- What is written of an operation that is applied alone. -/
def applyWrites (listing : Listing) (duration : UInt64) (format : Format) (operation : Operation) : List Write :=
  let (transition, navigation) := operation.navigate listing duration .initial
  navigation.toList.map (.remark <| navigationText listing transition ·) ++
    [.output (reportText listing format transition)]

/-- What is written of a step of a trace. -/
def stepWrites (listing : Listing) (format : Format) (step : Operation × Transition) : List Write :=
  [.output (operationHeading step.1), .output (reportText listing format step.2)]

/-- What is written of operations that are replayed from a script. -/
def replayWrites (listing : Listing) (duration : UInt64) (format : Format) (script : String)
    (operations : List Operation) (trace : Bool) : List Write :=
  let remark := .remark s!"replayed {operations.length} steps from {script}\n"
  if trace then
    (Operation.trace listing duration .initial operations).flatMap (stepWrites listing format) ++ [remark]
  else [remark, .output (reportText listing format (Operation.replay listing duration operations))]

def statsWrites (listing : Listing) (format : Format) : List Write :=
  match format with
  | .json => [.output ((Statistics.ofListing listing).value.pretty ++ "\n")]
  | .text => [.output (Statistics.ofListing listing).markdown]

section Stages

variable (directory : Directory) (path : String) (format : Option Format)

theorem runApply_eq (name : String) (element : Option ElementId) :
    runApply directory path name element format = (do
      let settings ← .of directory.settings
      let listing ← readListing directory path
      let command ← .of (Command.ofName name)
      let operation ← .of (command.bind listing element)
      ⟨applyWrites listing settings.duration (format.getD settings.format) operation, .ok ()⟩) := by
  refine bind_congr fun settings ↦ bind_congr fun listing ↦ bind_congr fun command ↦
    bind_congr fun operation ↦ ?_
  unfold applyWrites
  rcases operation.navigate listing settings.duration .initial with ⟨transition, _ | navigation⟩ <;> rfl

theorem runReplay_eq (script : String) (trace : Bool) :
    runReplay directory path script format trace = (do
      let settings ← .of directory.settings
      let listing ← readListing directory path
      let steps ← .of (directory.script script)
      let operations ← .of (Script.bind listing steps)
      ⟨replayWrites listing settings.duration (format.getD settings.format) script operations trace,
        .ok ()⟩) := by
  refine bind_congr fun settings ↦ bind_congr fun listing ↦ bind_congr fun steps ↦
    bind_congr fun operations ↦ ?_
  cases trace with
  | true =>
    simp only [if_true, replayWrites]
    rw [replayEach_eq fun _ _ ↦ rfl]
    rfl
  | false =>
    have hsilent (steps : List (Operation × Transition)) :
        (steps.flatMap fun _ ↦ (pure () : Action Unit).writes) = [] :=
      List.flatMap_eq_nil_iff.2 fun _ _ ↦ rfl
    simp only [Bool.false_eq_true, if_false, replayWrites]
    rw [replayEach_eq fun _ _ ↦ rfl, hsilent]
    rfl

theorem runStats_eq :
    runStats directory path format = (do
      let settings ← .of directory.settings
      let listing ← readListing directory path
      ⟨statsWrites listing (format.getD settings.format), .ok ()⟩) := by
  refine bind_congr fun settings ↦ bind_congr fun listing ↦ ?_
  unfold statsWrites
  cases format.getD settings.format <;> rfl

theorem result_runApply (name : String) (element : Option ElementId) :
    (runApply directory path name element format).result =
      directory.settings >>= fun _ ↦ directory.listing path >>= fun listing ↦
        Command.ofName name >>= fun command ↦ command.bind listing element >>= fun _ ↦ .ok () := by
  simp only [runApply_eq, Action.result_bind]
  rfl

theorem result_runReplay (script : String) (trace : Bool) :
    (runReplay directory path script format trace).result =
      directory.settings >>= fun _ ↦ directory.listing path >>= fun listing ↦
        directory.script script >>= fun steps ↦ Script.bind listing steps >>= fun _ ↦ .ok () := by
  simp only [runReplay_eq, Action.result_bind]
  rfl

end Stages

/-! ## Runs that fail -/

/-- The listing that a request is about, if it is about one. -/
def Request.listingPath : Request → Option String
  | .apply listing _ _ _ => some listing
  | .replay listing _ _ _ => some listing
  | .stats listing _ => some listing
  | .commands => none
  | .info _ => none

/-- The warnings that a request logs. Without settings it does not come to its listing. -/
def Request.logged (directory : Directory) (request : Request) : List Warning :=
  match request.listingPath, directory.settings with
  | some path, .ok _ => directory.warnings path
  | _, _ => []

section Failing

variable {directory : Directory} {request : Request}

/-- A request that reads its settings and its listing, and may fail later on, fails quietly if it does so
later on. -/
theorem failsQuietly_of_rest {path : String} (hpath : request.listingPath = some path)
    {rest : Settings → Listing → Action Unit}
    (hrest : ∀ settings listing, FailsQuietly [] (rest settings listing)) :
    FailsQuietly (request.logged directory)
      (.of directory.settings >>= fun settings ↦ readListing directory path >>= rest settings) := by
  unfold Request.logged
  rw [hpath]
  cases directory.settings with
  | error problem => exact fun _ _ ↦ rfl
  | ok settings =>
    rw [Action.of_ok_bind]
    exact .bind rfl (hrest settings)

theorem failsQuietly_of_bind {α : Type} (first : Except Problem α) {next : α → Action Unit}
    (hnext : ∀ value, FailsQuietly [] (next value)) : FailsQuietly [] (.of first >>= next) :=
  .bind rfl hnext

/-- Where a run fails, it has written nothing but the warnings on its listing. -/
theorem failsQuietly_run : FailsQuietly (request.logged directory) (request.run directory) := by
  cases request with
  | apply path name element format =>
    rw [Request.run, runApply_eq]
    refine failsQuietly_of_rest rfl fun settings listing ↦ failsQuietly_of_bind _ fun command ↦
      failsQuietly_of_bind _ fun operation ↦ failsQuietly_of_ok rfl
  | replay path script format trace =>
    rw [Request.run, runReplay_eq]
    refine failsQuietly_of_rest rfl fun settings listing ↦ failsQuietly_of_bind _ fun steps ↦
      failsQuietly_of_bind _ fun operations ↦ failsQuietly_of_ok rfl
  | stats path format =>
    rw [Request.run, runStats_eq]
    exact failsQuietly_of_rest rfl fun settings listing ↦ failsQuietly_of_ok rfl
  | commands => exact failsQuietly_of_ok rfl
  | info json => exact failsQuietly_of_ok rfl

/-- The outcome of a run that fails: the warnings, and the advice on the problem. -/
theorem outcome_of_error {problem : Problem} (h : (request.run directory).result = .error problem) :
    request.outcome directory =
      ⟨1, (request.logged directory).map .log ++ [.remark problem.terminalText]⟩ := by
  unfold Request.outcome Outcome.ofAction
  rw [h, failsQuietly_run problem h]

end Failing

/-! ## Runs that succeed -/

section Succeeding

variable {directory : Directory} {path name script : String} {element : Option ElementId}
  {format : Option Format} {trace : Bool} {settings : Settings} {listing : Listing}

theorem result_runApply_eq_ok_iff :
    (runApply directory path name element format).result = .ok () ↔
      ∃ settings listing operation, ∃ command : Command, directory.settings = .ok settings ∧
        directory.listing path = .ok listing ∧ name = command.name ∧
        command.bind listing element = .ok operation := by
  rw [result_runApply]
  constructor
  · intro h
    obtain ⟨settings, hsettings, h⟩ := except_bind_eq_ok_iff.1 h
    obtain ⟨listing, hlisting, h⟩ := except_bind_eq_ok_iff.1 h
    obtain ⟨command, hname, h⟩ := except_bind_eq_ok_iff.1 h
    obtain ⟨operation, hbind, _⟩ := except_bind_eq_ok_iff.1 h
    exact ⟨settings, listing, operation, command, hsettings, hlisting,
      Command.ofName_eq_ok_iff.1 hname, hbind⟩
  · rintro ⟨settings, listing, operation, command, hsettings, hlisting, rfl, hbind⟩
    rw [hsettings, hlisting, Command.ofName_name]
    simp only [bind, Except.bind, hbind]

theorem result_runReplay_eq_ok_iff :
    (runReplay directory path script format trace).result = .ok () ↔
      ∃ settings listing steps operations, directory.settings = .ok settings ∧
        directory.listing path = .ok listing ∧ directory.script script = .ok steps ∧
        Script.bind listing steps = .ok operations := by
  rw [result_runReplay]
  constructor
  · intro h
    obtain ⟨settings, hsettings, h⟩ := except_bind_eq_ok_iff.1 h
    obtain ⟨listing, hlisting, h⟩ := except_bind_eq_ok_iff.1 h
    obtain ⟨steps, hsteps, h⟩ := except_bind_eq_ok_iff.1 h
    obtain ⟨operations, hoperations, _⟩ := except_bind_eq_ok_iff.1 h
    exact ⟨settings, listing, steps, operations, hsettings, hlisting, hsteps, hoperations⟩
  · rintro ⟨settings, listing, steps, operations, hsettings, hlisting, hsteps, hoperations⟩
    rw [hsettings, hlisting, hsteps]
    simp only [bind, Except.bind, hoperations]

variable (hsettings : directory.settings = .ok settings) (hlisting : directory.listing path = .ok listing)

include hsettings hlisting

theorem outcome_apply_of_bind {command : Command} {operation : Operation} (hname : name = command.name)
    (hbind : command.bind listing element = .ok operation) :
    (Request.apply path name element format).outcome directory =
      ⟨0, (directory.warnings path).map .log ++
        applyWrites listing settings.duration (format.getD settings.format) operation⟩ := by
  have hrun : runApply directory path name element format =
      ⟨(directory.warnings path).map .log ++
        applyWrites listing settings.duration (format.getD settings.format) operation, .ok ()⟩ := by
    simp only [runApply_eq, hsettings, readListing, hlisting, hname, Command.ofName_name, hbind,
      Action.of_ok_bind, Action.mk_ok_bind]
  change Outcome.ofAction (runApply directory path name element format) = _
  rw [hrun]
  rfl

theorem outcome_replay_of_bind {steps : List Step} {operations : List Operation}
    (hsteps : directory.script script = .ok steps) (hbind : Script.bind listing steps = .ok operations) :
    (Request.replay path script format trace).outcome directory =
      ⟨0, (directory.warnings path).map .log ++
        replayWrites listing settings.duration (format.getD settings.format) script operations trace⟩ := by
  have hrun : runReplay directory path script format trace =
      ⟨(directory.warnings path).map .log ++
        replayWrites listing settings.duration (format.getD settings.format) script operations trace,
        .ok ()⟩ := by
    simp only [runReplay_eq, hsettings, readListing, hlisting, hsteps, hbind, Action.of_ok_bind,
      Action.mk_ok_bind]
  change Outcome.ofAction (runReplay directory path script format trace) = _
  rw [hrun]
  rfl

end Succeeding

/-! ## Outcomes -/

theorem ofArguments_of_parse {directory : Directory} {arguments : List String} {request : Request}
    (hparse : Request.parse arguments = .ok request) :
    Outcome.ofArguments directory arguments = request.outcome directory := by
  unfold Outcome.ofArguments
  rw [hparse]

theorem exitCode_ofAction_eq_zero_iff {action : Action Unit} :
    (Outcome.ofAction action).exitCode = 0 ↔ action.result = .ok () := by
  unfold Outcome.ofAction
  cases action.result <;> simp

/-- The log is not on standard output. -/
theorem join_onOutput_logs (warnings : List Warning) :
    String.join ((warnings.map Write.log).map Write.onOutput) = "" := by
  induction warnings with
  | nil => rfl
  | cons warning rest ih =>
    rw [List.map_cons, List.map_cons, String.join_cons, ih]
    rfl

theorem join_onError_logs (logLine : Warning → String) (warnings : List Warning) :
    String.join ((warnings.map Write.log).map (Write.onError logLine)) = String.join (warnings.map logLine) := by
  rw [List.map_map]
  rfl

/-- What a replay prints of the operations that it has bound. -/
def replayText (listing : Listing) (format : Format) (duration : UInt64) (operations : List Operation) :
    Bool → String
  | true => String.join ((Operation.trace listing duration .initial operations).map fun (operation, transition) ↦
      operationHeading operation ++ reportText listing format transition)
  | false => reportText listing format (Operation.replay listing duration operations)

theorem output_log_append (exitCode : Nat) (warnings : List Warning) (writes : List Write) :
    (Outcome.mk exitCode (warnings.map .log ++ writes)).output = String.join (writes.map Write.onOutput) := by
  rw [Outcome.output, List.map_append, String.join_append, join_onOutput_logs, String.empty_append]

theorem standardError_log_append (logLine : Warning → String) (exitCode : Nat) (warnings : List Warning)
    (writes : List Write) :
    (Outcome.mk exitCode (warnings.map .log ++ writes)).standardError logLine =
      String.join (warnings.map logLine) ++ String.join (writes.map (Write.onError logLine)) := by
  rw [Outcome.standardError, List.map_append, String.join_append, join_onError_logs]

theorem join_onOutput_applyWrites (listing : Listing) (duration : UInt64) (format : Format)
    (operation : Operation) :
    String.join ((applyWrites listing duration format operation).map Write.onOutput) =
      reportText listing format (operation.apply listing duration .initial) := by
  rw [← operation.navigate_fst, applyWrites]
  rcases operation.navigate listing duration .initial with ⟨transition, _ | navigation⟩ <;>
    simp [Write.onOutput]

/-- The text of a trace is that of its steps in order. -/
theorem join_onOutput_stepWrites (listing : Listing) (format : Format) (steps : List (Operation × Transition)) :
    String.join ((steps.flatMap (stepWrites listing format)).map Write.onOutput) =
      String.join (steps.map fun (operation, transition) ↦
        operationHeading operation ++ reportText listing format transition) := by
  induction steps with
  | nil => rfl
  | cons step rest ih =>
    rw [List.flatMap_cons, List.map_append, String.join_append, ih, List.map_cons, String.join_cons]
    simp [stepWrites, Write.onOutput]

theorem join_onOutput_replayWrites (listing : Listing) (duration : UInt64) (format : Format) (script : String)
    (operations : List Operation) (trace : Bool) :
    String.join ((replayWrites listing duration format script operations trace).map Write.onOutput) =
      replayText listing format duration operations trace := by
  cases trace with
  | false => simp [replayWrites, replayText, Write.onOutput]
  | true =>
    rw [replayWrites, if_pos rfl, List.map_append, String.join_append, join_onOutput_stepWrites, replayText]
    simp [Write.onOutput]

end DefUse.Shell
