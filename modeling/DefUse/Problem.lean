import DefUse.Json.Fault
import DefUse.Toml.Document

/-!
# Problems

Everything that can go wrong between a text and a view: reading listings, scripts and settings, and
binding commands to elements. Operations on views never fail.
-/

namespace DefUse

inductive Problem where
  | invalidSettings (mistake : Toml.Mistake)
  | io (reason : String)
  | malformedJson (mistake : Json.Mistake)
  | corruptListing (reason : String)
  | listingNotFound (path : String)
  | missingOrigin (command : String)
  | scriptNotFound (path : String)
  | scriptLine (line : Nat) (content : String)
  | unknownCommand (name : String) (suggestion : Option String)
  | unknownElement (id : String)
  | unknownFormat (name : String)
  | watchFailed (reason : String)
deriving DecidableEq

/-- The problem in one line. -/
def Problem.message : Problem → String
  | .invalidSettings mistake => "invalid config: " ++ mistake.message
  | .io reason => "io: " ++ reason
  | .malformedJson mistake => "json: " ++ mistake.message
  | .corruptListing reason => "listing corrupt: " ++ reason
  | .listingNotFound path => "listing not found: " ++ path
  | .missingOrigin command => s!"command `{command}` needs an origin element"
  | .scriptNotFound path => "script not found: " ++ path
  | .scriptLine line content => s!"script syntax error on line {line}: `{content}`"
  | .unknownCommand name _ => s!"unknown command: `{name}`"
  | .unknownElement id => s!"unknown element: `{id}`"
  | .unknownFormat name => s!"unknown output format: `{name}`"
  | .watchFailed reason => "watch failed: " ++ reason

end DefUse
