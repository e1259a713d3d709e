import DefUse.Shell.Run

/-!
# The command line

Reads the files that a request names, runs the request and writes what it writes.
-/

namespace DefUse.Shell

/-- The bytes of a file, or why it cannot be read. -/
def readPath (path : String) : IO (Except ReadFault (List UInt8)) := do
  try
    let content ← IO.FS.readBinFile path
    return .ok content.toList
  catch
    | .noFileOrDirectory _ _ _ => return .error .notFound
    | .inappropriateType _ 20 _ => return .error .notDirectory
    | .inappropriateType _ _ _ => return .error .isDirectory
    | .invalidArgument _ 36 _ => return .error .nameTooLong
    | error => return .error (.other (toString error))

/-- The working directory, as far as the paths go. -/
def readDirectory (paths : List String) : IO Directory := do
  let found ← paths.mapM fun path ↦ do return (path, ← readPath path)
  return ⟨fun path ↦ ((found.find? (·.1 == path)).map Prod.snd).getD (.error .notFound)⟩

/-- A line of the log. -/
def logLine (warning : Warning) : String :=
  s!"WARN element repeats an address id={warning.id} address={warning.address}\n"

def Write.perform : Write → IO Unit
  | .output text => IO.print text
  | .remark text => IO.eprint text
  | .log warning => IO.eprint (logLine warning)

end DefUse.Shell

open DefUse.Shell in
def main (arguments : List String) : IO UInt32 := do
  let paths :=
    match Request.parse arguments with
    | .ok request => request.paths
    | .error _ => []
  let outcome := Outcome.ofArguments (← readDirectory paths) arguments
  outcome.writes.forM Write.perform
  return outcome.exitCode.toUInt32
