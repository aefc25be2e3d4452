import Orchestrator.Cause
import Orchestrator.Path

namespace Orchestrator

/-!
# Faults — what stops a run

A command that does not succeed is a result and no fault. A fault is a failure of the orchestration
itself, and nothing more is run after one.

* `Fault` — what failed, and why.
* `Fault.message` — the line shown to the user.
-/

/-- A failure of the orchestration itself. -/
inductive Fault where
  /-- Writing the transcript failed. -/
  | transcript (cause : Cause)
  /-- Writing to the console failed. -/
  | console (cause : Cause)
  /-- A command was started and could not be awaited. -/
  | wait (command : String) (cause : Cause)
  /-- The directory of the examples could not be listed. -/
  | exampleDiscovery (dir : Path) (cause : Cause)
  /-- The project root is not a directory. -/
  | projectRoot (root : Path)
  deriving DecidableEq, Repr

namespace Fault

/-- The line shown to the user. -/
def message : Fault → String
  | .transcript cause => "transcript write failed: " ++ cause.text
  | .console cause => "console write failed: " ++ cause.text
  | .wait command cause => "command `" ++ command ++ "` could not be awaited: " ++ cause.text
  | .exampleDiscovery dir cause => "cannot list examples in " ++ dir.display ++ ": " ++ cause.text
  | .projectRoot root => "project root " ++ root.display ++ " is not a directory"

/-- Why the system refused, where it did. -/
def cause? : Fault → Option Cause
  | .transcript cause | .console cause | .wait _ cause | .exampleDiscovery _ cause => some cause
  | .projectRoot _ => none

end Fault

end Orchestrator
