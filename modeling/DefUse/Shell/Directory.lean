import DefUse.Digest.Fingerprint
import DefUse.Listing.Reader
import DefUse.Script
import DefUse.Settings

/-!
# The working directory

What the command line sees of the file system: what reading a path gives. Listings, scripts and
settings are read from here, each with its own answer to a missing file.
-/

namespace DefUse.Shell

inductive ReadFault where
  | notFound
  | isDirectory
  | notDirectory
  | nameTooLong
  | notText
  | other (reason : String)
deriving DecidableEq

def ReadFault.reason : ReadFault → String
  | .notFound => "No such file or directory (os error 2)"
  | .isDirectory => "Is a directory (os error 21)"
  | .notDirectory => "Not a directory (os error 20)"
  | .nameTooLong => "File name too long (os error 36)"
  | .notText => "stream did not contain valid UTF-8"
  | .other reason => reason

/-- The bytes at every path, or why there are none. -/
structure Directory where
  read : String → Except ReadFault (List UInt8)

namespace Directory

/-- An entry of a directory: a file with its bytes, or a directory. -/
inductive Entry where
  | file (content : List UInt8)
  | folder
deriving DecidableEq

/-- Where a path leads: along a chain of names below the directory, innermost first, to a folder
around the directory, or to a name that nothing has. -/
inductive Place where
  | inside (chain : List String)
  | outside
  | nowhere
deriving DecidableEq

namespace Place

/-- Around the directory there are folders all the way up. -/
def parent : Place → Place
  | .inside (_ :: chain) => .inside chain
  | .inside [] => .outside
  | .outside => .outside
  | .nowhere => .nowhere

/-- Outside of the directory nothing is known by its name. -/
def child (name : String) : Place → Place
  | .inside chain => .inside (name :: chain)
  | .outside => .nowhere
  | .nowhere => .nowhere

/-- What is at a place in the directory that holds the entries. -/
def entry (entries : List (String × Entry)) : Place → Option Entry
  | .inside [] => some .folder
  | .inside chain =>
    (entries.find? fun entry ↦ entry.1 == "/".intercalate chain.reverse).map Prod.snd
  | .outside => some .folder
  | .nowhere => none

end Place

/-- The most bytes that a name may have. -/
def maxName : Nat := 255

/-- The most bytes that a path may have. -/
def maxPath : Nat := 4095

/-- Follows the names of a path. Every name but the last has to be a folder. -/
def walk (entries : List (String × Entry)) (place : Place) : List String → Except ReadFault Entry
  | [] =>
    match place.entry entries with
    | some entry => .ok entry
    | none => .error .notFound
  | name :: rest =>
    match place.entry entries with
    | none => .error .notFound
    | some (.file _) => .error .notDirectory
    | some .folder =>
      if name = "" || name = "." then walk entries place rest
      else if name = ".." then walk entries place.parent rest
      else if maxName < name.utf8ByteSize then .error .nameTooLong
      else walk entries (place.child name) rest

/-- The directory that holds the entries, which are named by their paths. -/
def ofEntries (entries : List (String × Entry)) : Directory where
  read path :=
    if path = "" then .error .notFound
    else if maxPath < path.utf8ByteSize then .error .nameTooLong
    else
      let start : Place := if path.toList.head? = some '/' then .outside else .inside []
      let names := (Text.pieces (· == '/') path.toList).map String.ofList
      match walk entries start names with
      | .error fault => .error fault
      | .ok .folder => .error .isDirectory
      | .ok (.file content) => .ok content

def readText (directory : Directory) (path : String) : Except ReadFault String :=
  match directory.read path with
  | .error fault => .error fault
  | .ok content =>
    match String.fromUTF8? ⟨content.toArray⟩ with
    | some text => .ok text
    | none => .error .notText

def settingsPath : String := ".defnav.toml"

/-- There is something where the settings belong. -/
def hasSettings (directory : Directory) : Bool :=
  match directory.read settingsPath with
  | .error .notFound => false
  | _ => true

/-- The settings of the directory; without a file the defaults. -/
def settings (directory : Directory) : Except Problem Settings :=
  match directory.readText settingsPath with
  | .ok text => Settings.ofText text
  | .error .notFound => .ok .default
  | .error fault => .error (.io fault.reason)

def listing (directory : Directory) (path : String) : Except Problem Listing :=
  match directory.readText path with
  | .ok text => Listing.ofText text
  | .error .notFound => .error (.listingNotFound path)
  | .error fault => .error (.io fault.reason)

/-- The warnings on the listing at a path. -/
def warnings (directory : Directory) (path : String) : List Warning :=
  match directory.readText path with
  | .ok text => Listing.warningsOfText text
  | .error _ => []

def script (directory : Directory) (path : String) : Except Problem (List Step) :=
  match directory.readText path with
  | .ok text => Script.ofText text
  | .error .notFound => .error (.scriptNotFound path)
  | .error fault => .error (.io fault.reason)

/-- The contents at paths, up to the first that cannot be read. -/
def contents (directory : Directory) : List String → Except Problem (List (List UInt8))
  | [] => .ok []
  | path :: rest =>
    match directory.read path with
    | .error fault => .error (.io fault.reason)
    | .ok content => (contents directory rest).map (content :: ·)

/-- The fingerprint of the files at paths. -/
def fingerprint (directory : Directory) (paths : List String) : Except Problem String :=
  (directory.contents paths).map Digest.fingerprint

end Directory

end DefUse.Shell
