import DefUse.Listing.Growth
import DefUse.Outline.Reader
import DefUse.Problem

/-!
# Reading listings

A text is first read as an outline, to its end, and only then does the listing grow.
-/

namespace DefUse.Listing

def ofDraft (outline : Outline Draft) : Except Problem Listing :=
  match Growth.ofOutline outline with
  | .ok growth => .ok growth.listing
  | .error refused => .error (.corruptListing refused.fault.reason)

def ofText (source : String) : Except Problem Listing :=
  match Outline.ofText source with
  | .error mistake => .error (.malformedJson mistake)
  | .ok outline => ofDraft outline

/-- The warnings on an outline, up to where its listing stops to grow. -/
def warningsOfDraft (outline : Outline Draft) : List Warning :=
  match Growth.ofOutline outline with
  | .ok growth => growth.warnings
  | .error refused => refused.warnings

def warningsOfText (source : String) : List Warning :=
  match Outline.ofText source with
  | .error _ => []
  | .ok outline => warningsOfDraft outline

end DefUse.Listing
