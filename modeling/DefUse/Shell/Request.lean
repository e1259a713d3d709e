import DefUse.Settings

/-!
# Requests on the command line

A request is a subcommand with its arguments. Arguments are taken from left to right, and the first
one that does not fit or asks for help decides. Options may stand between positional arguments, up to
a double hyphen.

The subcommand that watches files and replays a script whenever they change is known by its name and its
grammar only. It runs without an end, so that it makes no request and nothing is said about what it does.
-/

namespace DefUse.Shell

inductive Request where
  | apply (listing command : String) (element : Option String) (format : Option Format)
  | replay (listing script : String) (format : Option Format) (trace : Bool)
  | stats (listing : String) (format : Option Format)
  | commands
  | info (json : Bool)
deriving DecidableEq

/-- Why arguments make no request: help is asked for, or they do not fit. -/
inductive Refusal where
  | help
  | usage
deriving DecidableEq

def Refusal.exitCode : Refusal → Nat
  | .help => 0
  | .usage => 2

/-- What a positional argument stands for. -/
inductive Slot where
  | path
  | word
deriving DecidableEq

/-- An empty text names no file. -/
def Slot.admits (slot : Slot) (argument : String) : Bool := slot == .word || argument ≠ ""

/-- The arguments that a subcommand takes. -/
structure Grammar where
  slots : List Slot
  format : Bool
  flags : List String
deriving DecidableEq

/-- The arguments of a subcommand, sorted by kind. -/
structure Arguments where
  positionals : List String
  format : Option Format
  flags : List String
deriving DecidableEq

namespace Arguments

def empty : Arguments := ⟨[], none, []⟩

/-- Takes a positional argument into the next slot. -/
def addPositional (grammar : Grammar) (arguments : Arguments) (argument : String) :
    Except Refusal Arguments :=
  match grammar.slots[arguments.positionals.length]? with
  | some slot =>
    if slot.admits argument then
      .ok { arguments with positionals := arguments.positionals ++ [argument] }
    else .error .usage
  | none => .error .usage

def setFormat (grammar : Grammar) (arguments : Arguments) (value : String) :
    Except Refusal Arguments :=
  match arguments.format, Format.ofName? value with
  | none, some format =>
    if grammar.format then .ok { arguments with format := some format } else .error .usage
  | _, _ => .error .usage

def addFlag (grammar : Grammar) (arguments : Arguments) (flag : String) : Except Refusal Arguments :=
  if flag = "--help" then .error .help
  else if grammar.flags.contains flag && !arguments.flags.contains flag then
    .ok { arguments with flags := flag :: arguments.flags }
  else .error .usage

/-- Takes an argument that stands for itself: an option, or else a positional argument. A lone hyphen
is no option. The letters after a single hyphen are options of their own, and help is the only such
option. -/
def add (grammar : Grammar) (arguments : Arguments) (argument : String) : Except Refusal Arguments :=
  match argument.toList with
  | '-' :: '-' :: _ =>
    match Text.splitFirst '=' argument.toList with
    | some (name, value) =>
      if String.ofList name = "--format" then arguments.setFormat grammar (String.ofList value)
      else .error .usage
    | none => arguments.addFlag grammar argument
  | '-' :: letter :: _ => .error (if letter = 'h' then .help else .usage)
  | _ => arguments.addPositional grammar argument

/-- Sorts arguments by kind. -/
def sort (grammar : Grammar) (arguments : Arguments) : List String → Except Refusal Arguments
  | [] => .ok arguments
  | "--" :: rest => rest.foldlM (addPositional grammar) arguments
  | "--format" :: value :: rest => do sort grammar (← arguments.setFormat grammar value) rest
  | argument :: rest => do sort grammar (← arguments.add grammar argument) rest

end Arguments

inductive Subcommand where
  | apply
  | commands
  | info
  | replay
  | stats
  | watch
deriving DecidableEq

namespace Subcommand

def all : List Subcommand := [.apply, .commands, .info, .replay, .stats, .watch]

def name : Subcommand → String
  | .apply => "apply"
  | .commands => "commands"
  | .info => "info"
  | .replay => "replay"
  | .stats => "stats"
  | .watch => "watch"

def ofName? (name : String) : Option Subcommand := all.find? (·.name == name)

def grammar : Subcommand → Grammar
  | .apply => ⟨[.path, .word, .word], true, []⟩
  | .commands => ⟨[], false, []⟩
  | .info => ⟨[], false, ["--json"]⟩
  | .replay => ⟨[.path, .path], true, ["--trace"]⟩
  | .stats => ⟨[.path], true, []⟩
  | .watch => ⟨[.path, .path], true, []⟩

/-- The request of a subcommand with arguments that its grammar admits. Watching is no request: it
never comes to an outcome. -/
def request (subcommand : Subcommand) (arguments : Arguments) : Except Refusal Request :=
  match subcommand, arguments.positionals with
  | .apply, [listing, command] => .ok (.apply listing command none arguments.format)
  | .apply, [listing, command, element] =>
    .ok (.apply listing command (some element) arguments.format)
  | .commands, [] => .ok .commands
  | .info, [] => .ok (.info (arguments.flags.contains "--json"))
  | .replay, [listing, script] =>
    .ok (.replay listing script arguments.format (arguments.flags.contains "--trace"))
  | .stats, [listing] => .ok (.stats listing arguments.format)
  | _, _ => .error .usage

/-- Help on the program or on one subcommand, of which help itself is one. -/
def help : List String → Refusal
  | [] => .help
  | ["help"] => .help
  | [name] => if (ofName? name).isSome then .help else .usage
  | _ => .usage

end Subcommand

/-- The request that arguments spell. -/
def Request.parse : List String → Except Refusal Request
  | [] => .error .usage
  | "help" :: rest => .error (Subcommand.help rest)
  | first :: rest =>
    match Subcommand.ofName? first with
    | some subcommand => do
      subcommand.request (← Arguments.empty.sort subcommand.grammar rest)
    | none => do
      let _ ← Arguments.empty.add ⟨[], false, []⟩ first
      .error .usage

end DefUse.Shell
