import DefUse.Tag

/-!
# Commands

The closed vocabulary of commands, with the names that scripts use and the groups and labels of the
menu.
-/

namespace DefUse

/-- Which facts a highlighting command shows, and how. -/
inductive Mode where
  | all
  | selected
  | slice
deriving DecidableEq

inductive Command where
  | erase
  | goTo (kind : NavKind)
  | highlight (mode : Mode) (kind : FactKind)
  | link
  | unslice
deriving DecidableEq

namespace Mode

def every : List Mode := [.all, .selected, .slice]

def label : Mode → String
  | .all => "All Effects"
  | .selected => "Selected Effects"
  | .slice => "Sliced Effects"

def short : Mode → String
  | .all => "all"
  | .selected => "sel"
  | .slice => "sli"

end Mode

namespace Command

/-- The commands in the order of the menu. -/
def all : List Command :=
  (Mode.every.flatMap fun mode ↦ FactKind.all.map (.highlight mode)) ++ NavKind.all.map .goTo ++
    [.erase, .unslice, .link]

def name : Command → String
  | .erase => "erase"
  | .goTo kind => "goto-" ++ kind.factKind.short
  | .highlight mode kind => mode.short ++ "-" ++ kind.short
  | .link => "link"
  | .unslice => "unslice"

/-- The group of the menu that holds the command. -/
def group : Command → Option String
  | .goTo _ => some "Goto Def"
  | .highlight mode _ => some mode.label
  | _ => none

def label : Command → String
  | .erase => "Remove Highlighting"
  | .goTo kind => kind.label
  | .highlight _ kind => kind.label
  | .link => "Linked Defs/Uses"
  | .unslice => "Undo Slice"

/-- The path of the command in the menu. -/
def menuPath (command : Command) : String :=
  match command.group with
  | some group => group ++ " > " ++ command.label
  | none => command.label

/-- The command acts on a selected element. -/
def needsOrigin : Command → Bool
  | .erase => false
  | .unslice => false
  | .highlight .all _ => false
  | _ => true

def ofName? (name : String) : Option Command := all.find? (·.name == name)

/-- The ASCII letters and digits of a name, in lower case. -/
def skeleton (name : String) : List Char := (name.toList.filter Char.isAlphanum).map Char.toLower

/-- The first command name that differs at most in case and punctuation. -/
def suggestion (name : String) : Option String :=
  (all.map Command.name).find? fun known ↦ skeleton known == skeleton name

end Command

end DefUse
