import Orchestrator.Fault

namespace Orchestrator.Boost

/-!
# Boost — how a build can stop

* `Failure` — every way in which a build stops before it is done.
* `Failure.message` — the line shown to the user.
-/

/-- Why a build stopped. -/
inductive Failure where
  /-- Downloading did not succeed. -/
  | downloadFailed
  /-- Downloading succeeded and left no file. -/
  | tarballMissing
  /-- The directory to extract into could not be made. -/
  | createDir (path : Path) (cause : Cause)
  /-- Extracting did not succeed. -/
  | extractFailed
  /-- Extracting succeeded and left no directory of this version. -/
  | directoryMissing
  /-- The sources have no script that makes the build tool. -/
  | bootstrapScriptMissing
  /-- Making the build tool did not succeed. -/
  | bootstrapFailed
  /-- Making the build tool succeeded and left none. -/
  | b2Missing
  /-- Building the libraries did not succeed. -/
  | buildFailed
  /-- The libraries are built and the marker could not be made. -/
  | markerFailed (path : Path) (cause : Cause)
  /-- A command could not be run at all. -/
  | runner (fault : Fault)
  deriving DecidableEq, Repr

namespace Failure

/-- The line shown to the user. -/
def message : Failure → String
  | downloadFailed => "cannot download boost"
  | tarballMissing => "boost tarball missing"
  | createDir path _ => "cannot make directory " ++ path.display
  | extractFailed => "cannot extract boost"
  | directoryMissing => "boost directory missing"
  | bootstrapScriptMissing => "boost bootstrap.sh missing"
  | bootstrapFailed => "could not bootstrap boost"
  | b2Missing => "b2 missing"
  | buildFailed => "could not build boost"
  | markerFailed path _ => "could not create " ++ path.display
  | runner fault => fault.message

/-- Why the system refused, where it did. -/
def cause? : Failure → Option Cause
  | createDir _ cause | markerFailed _ cause => some cause
  | runner fault => fault.cause?
  | _ => none

end Failure

end Orchestrator.Boost
