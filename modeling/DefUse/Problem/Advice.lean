import DefUse.Command
import DefUse.Problem

/-!
# Advice on problems

What a user reads about a problem: what happened, and what to do about it, under headings.
-/

namespace DefUse.Problem

def heading (title : String) : List String := ["# Error: " ++ title, ""]

/-- The lines of the advice. -/
def adviceLines : Problem → List String
  | .listingNotFound path => heading "Listing Not Found" ++
      [s!"`{path}` does not exist.",
       "",
       "## Fix",
       "",
       "Point defnav at the annotated listing written by the analysis step:",
       "",
       "    defnav apply path/to/listing.json all-var"]
  | .corruptListing reason => heading "Listing Corrupt" ++
      [reason,
       "",
       "## Fix",
       "",
       "Every element needs a non-empty `id` that is unique across the listing.",
       "Regenerate the listing with the analysis step."]
  | .unknownCommand name (some suggestion) => heading "Unknown Command" ++
      [s!"`{name}` is not a defnav command.",
       "",
       s!"## Did you mean `{suggestion}`?"]
  | .unknownCommand name none => heading "Unknown Command" ++
      [s!"`{name}` is not a defnav command.",
       "",
       "## Available commands",
       ""] ++ Command.all.map fun command ↦ "- `" ++ command.name ++ "`"
  | .missingOrigin command => heading "Missing Origin" ++
      [s!"`{command}` acts on a selected element.",
       "",
       "## Fix",
       "",
       "Pass the id of the element the user selected:",
       "",
       s!"    defnav apply path/to/listing.json {command} <element-id>"]
  | .unknownElement id => heading "Unknown Element" ++
      [s!"No element with id `{id}` exists in the listing.",
       "",
       "## Fix",
       "",
       "List the annotated elements and their ids:",
       "",
       "    defnav stats path/to/listing.json"]
  | .scriptLine line content => heading "Script Syntax" ++
      [s!"Line {line} is not a command:",
       "",
       "    " ++ content,
       "",
       "## Fix",
       "",
       "Write one command per line, optionally followed by an element id:",
       "",
       "    sel-var e12",
       "    unslice"]
  | .scriptNotFound path => heading "Script Not Found" ++ [s!"`{path}` does not exist."]
  | .invalidSettings mistake => heading "Invalid Config" ++
      [mistake.message,
       "",
       "## Fix",
       "",
       "Check `.defnav.toml`. Known keys are `format` and `scroll_duration_ms`."]
  | .unknownFormat name => heading "Unknown Format" ++
      [s!"`{name}` is not an output format.",
       "",
       "## Supported formats",
       "",
       "- `text`",
       "- `json`"]
  | .watchFailed reason => heading "Watch Failed" ++ [reason]
  | .io reason => heading "I/O" ++ [reason]
  | .malformedJson mistake => heading "Invalid JSON" ++ [mistake.message]

def advice (problem : Problem) : String := String.join (problem.adviceLines.map (· ++ "\n"))

/-- A heading in bold for a terminal, any other line as it is. -/
def emphasized (line : List Char) : String :=
  let text := String.ofList line
  if line.head? = some '#' then "\x1b[1m" ++ text ++ "\x1b[0m" else text

/-- The advice as a terminal shows it. -/
def terminalText (problem : Problem) : String :=
  String.join ((Text.lines problem.advice.toList).map fun line ↦ emphasized line ++ "\n")

end DefUse.Problem
