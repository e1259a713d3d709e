import DefUse.Definition
import DefUse.Problem

/-!
# Settings

The output format and the time for scrolling, which a user may set in a TOML file. What is not set has
a default; a name that is not known or a value of the wrong type is a mistake.
-/

namespace DefUse

inductive Format where
  | json
  | text
deriving DecidableEq

namespace Format

def name : Format → String
  | .json => "json"
  | .text => "text"

def ofName? : String → Option Format
  | "json" => some .json
  | "text" => some .text
  | _ => none

def ofName (name : String) : Except Problem Format :=
  match ofName? name with
  | some format => .ok format
  | none => .error (.unknownFormat name)

end Format

structure Settings where
  format : Format
  duration : UInt64
deriving DecidableEq

namespace Settings

def default : Settings := ⟨.text, defaultDuration⟩

/-- The settings as they are written. -/
structure Choices where
  format : Option String
  duration : Option UInt64
deriving DecidableEq

/-- Takes an entry into the choices. -/
def choose (choices : Choices) (entry : Toml.Entry) : Except Toml.Fault Choices :=
  match entry.key.name with
  | "format" =>
    match entry.found with
    | .value (.string name) => .ok { choices with format := some name }
    | found => .error ⟨.invalidType found "a string", entry.span⟩
  | "scroll_duration_ms" =>
    match entry.found with
    | .value (.integer number) =>
      if 0 ≤ number then .ok { choices with duration := some number.toNat.toUInt64 }
      else .error ⟨.invalidValue number "u64", entry.span⟩
    | found => .error ⟨.invalidType found "u64", entry.span⟩
  | name => .error ⟨.unknownName name ["format", "scroll_duration_ms"], entry.key.span⟩

def choices (source : String) : Except Toml.Fault Choices := do
  let entries ← Toml.document source.toList
  entries.foldlM choose ⟨none, none⟩

/-- Reads settings from their TOML text. -/
def ofText (source : String) : Except Problem Settings :=
  match choices source with
  | .error fault => .error (.invalidSettings ⟨source, fault⟩)
  | .ok choices => do
    let format ←
      match choices.format with
      | some name => Format.ofName name
      | none => .ok default.format
    .ok ⟨format, choices.duration.getD default.duration⟩

end Settings

end DefUse
