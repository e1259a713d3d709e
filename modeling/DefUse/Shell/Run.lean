import DefUse.Shell.Action
import DefUse.Shell.Reference
import DefUse.Shell.Request
import DefUse.Statistics

/-!
# Running requests

A request runs against a directory as one action: it reads what it needs, step by step, and prints reports as
it comes to them. The outcome has all that it has written, in order, also on the way to a problem. Running
covers all requests, and so not the subcommand that watches files. Of the log it has the warnings on listings.
-/

namespace DefUse.Shell

open DefUse.Shell.Action (print remark)

/-- The text with a line break at its end. -/
def withLineEnd (text : String) : String :=
  if text.toList.getLast? = some '\n' then text else text ++ "\n"

def reportText (listing : Listing) (format : Format) (transition : Transition) : String :=
  withLineEnd ((Report.ofTransition listing transition).render listing format)

/-- Where a scroll goes: the line of its row, or the row if it has none. -/
def scrollPlace (listing : Listing) (scroll : Scroll) : String :=
  match (listing.rows[scroll.row]?).bind Row.line with
  | some line => "on line " ++ toString line.toNat
  | none => "in " ++ rowName scroll.row

def targetCount (view : View) : Nat := (view.marked.filter (·.2 == .target)).length

/-- How going to a definition ended, in one line. -/
def navigationText (listing : Listing) (transition : Transition) : Navigation → String
  | .ambiguous =>
    s!"goto: definitions disagree, sliced to {targetCount transition.view} candidates\n"
  | .noTarget => "goto: no definition found\n"
  | .unresolved => "goto: selection is not a navigable fact\n"
  | .unique =>
    match transition.scroll with
    | some scroll => "goto: " ++ scroll.element ++ " " ++ scrollPlace listing scroll ++ "\n"
    | none => ""

/-- Reads a listing. The log has the warnings on it, also where it is refused in the end. -/
def readListing (directory : Directory) (path : String) : Action Listing :=
  ⟨(directory.warnings path).map .log, directory.listing path⟩

def printReport (listing : Listing) (format : Format) (transition : Transition) : Action Unit :=
  print (reportText listing format transition)

def runApply (directory : Directory) (path command : String) (element : Option String)
    (format : Option Format) : Action Unit := do
  let settings ← .of directory.settings
  let listing ← readListing directory path
  let command ← .of (Command.ofName command)
  let operation ← .of (command.bind listing element)
  let (transition, navigation) := operation.navigate listing settings.duration .initial
  match navigation with
  | some navigation => remark (navigationText listing transition navigation)
  | none => pure ()
  printReport listing (format.getD settings.format) transition

/-- A heading that names an operation. -/
def operationHeading (operation : Operation) : String :=
  match operation.origin with
  | some origin => "## " ++ operation.command.name ++ " " ++ origin ++ "\n\n"
  | none => "## " ++ operation.command.name ++ "\n\n"

/-- Applies operations in turn, each to the view that the one before it has made, and takes an action on every
step. The last transition comes out. -/
def replayEach (listing : Listing) (duration : UInt64) (onStep : Operation → Transition → Action Unit)
    (current : Transition) : List Operation → Action Transition
  | [] => pure current
  | operation :: rest => do
    let next := operation.apply listing duration current.view
    onStep operation next
    replayEach listing duration onStep next rest

/-- Prints a step of a trace. -/
def printStep (listing : Listing) (format : Format) (operation : Operation) (transition : Transition) :
    Action Unit := do
  print (operationHeading operation)
  printReport listing format transition

def runReplay (directory : Directory) (path script : String) (format : Option Format) (trace : Bool) :
    Action Unit := do
  let settings ← .of directory.settings
  let format := format.getD settings.format
  let listing ← readListing directory path
  let steps ← .of (directory.script script)
  let operations ← .of (Script.bind listing steps)
  let onStep := if trace then printStep listing format else fun _ _ ↦ pure ()
  let last ← replayEach listing settings.duration onStep (.to .initial) operations
  remark s!"replayed {operations.length} steps from {script}\n"
  if trace then pure () else printReport listing format last

def runStats (directory : Directory) (path : String) (format : Option Format) : Action Unit := do
  let settings ← .of directory.settings
  let listing ← readListing directory path
  let statistics := Statistics.ofListing listing
  match format.getD settings.format with
  | .json => print (statistics.value.pretty ++ "\n")
  | .text => print statistics.markdown

def runInfo (directory : Directory) (json : Bool) : Action Unit :=
  let state := CurrentState.ofDirectory directory
  print (if json then (referenceValue state).pretty ++ "\n" else referenceMarkdown state)

def Request.run (directory : Directory) : Request → Action Unit
  | .apply listing command element format => runApply directory listing command element format
  | .replay listing script format trace => runReplay directory listing script format trace
  | .stats listing format => runStats directory listing format
  | .commands => print commandTable
  | .info json => runInfo directory json

/-- Runs a request to its end. -/
def Request.outcome (directory : Directory) (request : Request) : Outcome :=
  Outcome.ofAction (request.run directory)

def usageText : String :=
  unlines [
    "Usage: defnav apply <LISTING> <COMMAND> [ELEMENT] [--format <FORMAT>]",
    "       defnav replay <LISTING> <SCRIPT> [--format <FORMAT>] [--trace]",
    "       defnav stats <LISTING> [--format <FORMAT>]",
    "       defnav commands",
    "       defnav info [--json]"]

/-- Help is output, and arguments that do not fit are an error. -/
def Outcome.ofRefusal (refusal : Refusal) : Outcome :=
  match refusal with
  | .help => ⟨refusal.exitCode, [.output usageText]⟩
  | .usage => ⟨refusal.exitCode, [.remark usageText]⟩

/-- What arguments come to in a directory. -/
def Outcome.ofArguments (directory : Directory) (arguments : List String) : Outcome :=
  match Request.parse arguments with
  | .ok request => request.outcome directory
  | .error refusal => ofRefusal refusal

/-- The paths that a request reads. -/
def Request.paths : Request → List String
  | .apply listing _ _ _ => [Directory.settingsPath, listing]
  | .replay listing script _ _ => [Directory.settingsPath, listing, script]
  | .stats listing _ => [Directory.settingsPath, listing]
  | .commands => []
  | .info _ => [Directory.settingsPath]

end DefUse.Shell
