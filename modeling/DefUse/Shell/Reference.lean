import DefUse.Report
import DefUse.Shell.Directory

/-!
# The reference document

What the program tells about itself: its commands, the form of a listing, the settings that are in
force here, and its exit codes.
-/

namespace DefUse.Shell

def version : String := "0.1.0"

/-- The settings in force, and what is wrong with the file that should set them. -/
structure CurrentState where
  problem : Option Problem
  found : Bool
  settings : Settings
deriving DecidableEq

def CurrentState.ofDirectory (directory : Directory) : CurrentState :=
  match directory.settings with
  | .ok settings => ⟨none, directory.hasSettings, settings⟩
  | .error problem => ⟨some problem, directory.hasSettings, .default⟩

def unlines (lines : List String) : String := String.join (lines.map (· ++ "\n"))

/-- The commands with their places in the menu. -/
def commandTable : String :=
  unlines (["| Command | Menu | Needs element |", "|---------|------|---------------|"] ++
    Command.all.map fun command ↦
      "| `" ++ command.name ++ "` | " ++ command.menuPath ++ " | " ++
        (if command.needsOrigin then "yes" else "no") ++ " |")

def commandLine (command : Command) : String :=
  let usage := command.name ++ if command.needsOrigin then " <element>" else ""
  "    " ++ Report.padRight 24 usage ++ command.menuPath

def CurrentState.lines (state : CurrentState) : List String :=
  let settings :=
    match state.problem, state.found with
    | some problem, _ => "(invalid: " ++ problem.message ++ ")"
    | none, true => "(found)"
    | none, false => "(not found)"
  ["Config:  .defnav.toml " ++ settings,
   "Format:  " ++ state.settings.format.name,
   "Scroll:  " ++ toString state.settings.duration.toNat ++ " ms"]

def referenceMarkdown (state : CurrentState) : String :=
  unlines (
    ["# defnav " ++ version,
     "",
     "Highlight, slice, and goto-definition over an annotated def/use listing.",
     "",
     "## Workflow",
     "",
     "    defnav apply <listing> <command> [element]    Apply one command to a fresh view",
     "    defnav replay <listing> <script> [--trace]    Apply a script of commands in order",
     "    defnav watch <listing> <script>               Replay again whenever either file changes",
     "    defnav stats <listing>                        Summarise tags, addresses, ambiguity",
     "    defnav commands                               List commands and their menu labels",
     "",
     "## Commands",
     ""] ++
    Command.all.map commandLine ++
    ["",
     "## Listing Format",
     "",
     "    \x7b\"rows\": [\x7b\"line\": 3, \"text\": \"y = x + 1\",",
     "               \"elements\": [\x7b\"id\": \"e7\", \"class\": \"ENV-DEF DENV-DEF\",",
     "                              \"address\": \"a2\", \"text\": \"y\", \"children\": []\x7d]\x7d]\x7d",
     "",
     "Tags recognised in `class`: " ++ " ".intercalate (Tag.all.map Tag.token),
     "",
     "## Configuration (.defnav.toml)",
     "",
     "    format = \"text\"              # default output format: text | json",
     "    scroll_duration_ms = 200     # goto scroll animation bound",
     "",
     "## Current State",
     ""] ++
    state.lines ++
    ["",
     "## Exit Codes",
     "",
     "| Code | Meaning |",
     "|------|---------|",
     "| 0    | Success |",
     "| 1    | Error (missing listing, bad command, bad element, bad script) |"])

open Json (Value)

def commandValue (command : Command) : Value :=
  .object [("group", .ofOption .string command.group), ("label", .string command.label),
    ("name", .string command.name), ("needs_element", .boolean command.needsOrigin)]

def CurrentState.value (state : CurrentState) : Value :=
  .object [("config_error", .ofOption (fun problem ↦ .string problem.message) state.problem),
    ("config_found", .boolean state.found), ("format", .string state.settings.format.name),
    ("scroll_duration_ms", .number state.settings.duration.toNat)]

def exitCodeValue (code : Nat) (meaning : String) : Value :=
  .object [("code", .number code), ("meaning", .string meaning)]

def referenceValue (state : CurrentState) : Value :=
  .object [("commands", .ofList commandValue Command.all), ("current_state", state.value),
    ("exit_codes", .array [exitCodeValue 0 "Success", exitCodeValue 1 "Error"]),
    ("tags", .ofList (fun tag ↦ .string tag.token) Tag.all), ("version", .string version)]

end DefUse.Shell
