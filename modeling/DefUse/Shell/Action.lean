import DefUse.Listing.Growth
import DefUse.Problem.Advice

/-!
# Actions

An action writes as it goes on, and comes to a value or to a problem. What it has written before a problem stays
written. On standard error stand remarks and the log. By default the log has a line for every warning, which
gives the time; how it is written is left open. `DEFNAV_LOG` can turn the log off. It can also ask for more than
warnings, and the lines that the log has only then are left out.
-/

namespace DefUse.Shell

inductive Write where
  | output (text : String)
  | remark (text : String)
  | log (warning : Warning)
deriving DecidableEq

/-- What is on standard output of a text written. -/
def Write.onOutput : Write → String
  | .output text => text
  | .remark _ => ""
  | .log _ => ""

/-- What is on standard error, if the log writes a warning as the line. -/
def Write.onError (logLine : Warning → String) : Write → String
  | .output _ => ""
  | .remark text => text
  | .log warning => logLine warning

structure Action (α : Type) where
  writes : List Write
  result : Except Problem α

namespace Action

/-- An action that writes nothing. -/
def of {α : Type} (result : Except Problem α) : Action α := ⟨[], result⟩

/-- The second action is taken unless the first comes to a problem. -/
def andThen {α β : Type} (action : Action α) (next : α → Action β) : Action β :=
  match action.result with
  | .error problem => ⟨action.writes, .error problem⟩
  | .ok value => ⟨action.writes ++ (next value).writes, (next value).result⟩

instance : Monad Action where
  pure value := of (.ok value)
  bind := andThen

def print (text : String) : Action Unit := ⟨[.output text], .ok ()⟩

def remark (text : String) : Action Unit := ⟨[.remark text], .ok ()⟩

end Action

/-- What a run comes to: its exit code, and what it has written. -/
structure Outcome where
  exitCode : Nat
  writes : List Write
deriving DecidableEq

namespace Outcome

/-- A problem ends a run with the advice on it. -/
def ofAction (action : Action Unit) : Outcome :=
  match action.result with
  | .ok _ => ⟨0, action.writes⟩
  | .error problem => ⟨1, action.writes ++ [.remark problem.terminalText]⟩

/-- All of standard output. -/
def output (outcome : Outcome) : String := String.join (outcome.writes.map Write.onOutput)

/-- All of standard error, if the log writes a warning as the line. -/
def standardError (logLine : Warning → String) (outcome : Outcome) : String :=
  String.join (outcome.writes.map (Write.onError logLine))

/-- Standard error without the log. -/
def errors (outcome : Outcome) : String := outcome.standardError fun _ ↦ ""

end Outcome

end DefUse.Shell
