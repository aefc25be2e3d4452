import Orchestrator.Stage
import Orchestrator.Validate

namespace Orchestrator

/-!
# The build matrix — every stage under every toolchain

* `Host` — what a run works with: where it was started, what it logs to, what runs its commands.
* `Outcome` — all passed, or the first stage that did not.
* `Host.runMatrix` — the stages in order under the toolchains in order. The first stage that does
  not pass ends the run.

A run that ends with a result logs the success line or the failure line last. One that a fault ends
tries to log the failure line as well, and the fault that ended it is the one that is told.
-/

/-- How a run ended. -/
inductive Outcome where
  /-- Every stage passed under every toolchain. -/
  | passed
  /-- The first stage that did not pass, and the toolchain it ran under; nothing ran after it. -/
  | failed (compiler : String) (stage : Stage)
  deriving DecidableEq, Repr

namespace Outcome

/-- The run passed. -/
def isPassed (outcome : Outcome) : Bool := outcome == .passed

/-- The exit code that tells the outcome to the caller. -/
def exitCode (outcome : Outcome) : Nat := if outcome.isPassed then 0 else 1

end Outcome

/-- The heading before the first toolchain. -/
def unitTestHeading : String := "build and run unit test code"

/-- The heading before the example stages of each toolchain. -/
def exampleHeading : String := "build and run example code"

/-- The last line of a run that passed; it has no newline. -/
def successLine : String := "Integration Validation Success"

/-- The last line of a run that did not pass; it has no newline. -/
def failureLine : String := "Integration Validation FAILURE"

/-- What a run works with. -/
structure Host (π ω : Type) where
  start : Place
  sink : Sink (World π ω)
  runner : Runner (World π ω)

namespace Host

variable {π ω : Type} (host : Host π ω) (config : Config)

/-- The commands of a stage, the examples looked up as the file system stands; nothing if they
cannot be looked up. -/
def stageCommands? (fs : FileSystem π) : Stage → Option (List CommandLine)
  | .runExamples =>
    match discover fs host.start config.examplesDir config.exampleFilter with
    | .ok paths => some (paths.map CommandLine.ofPath)
    | .error _ => none
  | stage => some (stage.commands config)

/-- Run one stage; tells whether it passed. A stage whose commands cannot be looked up did not. -/
def runStage (ctx : Context) (stage : Stage) : Logged (World π ω) Bool := fun s =>
  match host.stageCommands? config s.world.files stage with
  | none => (.ok false, s)
  | some commands => validateAll host.sink host.runner ctx commands s

/-- After a fault, try to log the failure line; whatever comes of it, the fault stands. -/
def orFailureLine {α : Type} (action : Logged (World π ω) α) : Logged (World π ω) α := fun s =>
  match action s with
  | (.ok a, after) => (.ok a, after)
  | (.error fault, after) => (.error fault, (host.sink.log failureLine after).2)

/-- Run stages in order up to the first that does not pass; tells which one that is. -/
def runStages (ctx : Context) : List Stage → Logged (World π ω) (Option Stage)
  | [] => pure none
  | stage :: rest => do
    if stage = .buildExamples then host.sink.heading exampleHeading
    if ← host.orFailureLine (host.runStage config ctx stage) then runStages ctx rest
    else
      host.sink.log failureLine
      pure (some stage)

/-- Run all stages under each toolchain in order, up to the first that does not pass. -/
def runToolchains : List Toolchain → Logged (World π ω) Outcome
  | [] => do
    host.sink.log successLine
    pure .passed
  | toolchain :: rest => do
    let ctx := (Context.inDir config.projectRoot).withToolchain toolchain
    match ← host.runStages config ctx Stage.all with
    | none => runToolchains rest
    | some stage => pure (.failed toolchain.id stage)

/-- Run every stage under every toolchain of a project. Nothing is logged or run if the project root
is not a directory. -/
def runMatrix : Logged (World π ω) Outcome := fun s =>
  if s.world.files.isDirectory host.start config.projectRoot then
    (do
      host.sink.heading unitTestHeading
      host.runToolchains config config.toolchains) s
  else (.error (.projectRoot config.projectRoot), s)

/-! ### How a run goes on -/

variable {host} in
theorem orFailureLine_of_ok {α : Type} {action : Logged (World π ω) α}
    {s after : Session (World π ω)} {a : α} (h : action s = (.ok a, after)) :
    host.orFailureLine action s = (.ok a, after) := by
  rw [orFailureLine, h]

variable {host} in
theorem orFailureLine_of_error {α : Type} {action : Logged (World π ω) α}
    {s after : Session (World π ω)} {fault : Fault} (h : action s = (.error fault, after)) :
    host.orFailureLine action s = (.error fault, (host.sink.log failureLine after).2) := by
  rw [orFailureLine, h]

variable {host config} in
theorem runStages_cons (ctx : Context) (stage : Stage) (rest : List Stage) :
    host.runStages config ctx (stage :: rest) = (do
      (if stage = .buildExamples then host.sink.heading exampleHeading else pure ())
      let passed ← host.orFailureLine (host.runStage config ctx stage)
      if passed then host.runStages config ctx rest
      else do
        host.sink.log failureLine
        pure (some stage)) := by
  rw [runStages]
  split <;> rfl

/-- A run begins with the heading of the unit tests. -/
theorem runMatrix_of_root {s : Session (World π ω)}
    (root : s.world.files.isDirectory host.start config.projectRoot = true) :
    host.runMatrix config s = (do
      host.sink.heading unitTestHeading
      host.runToolchains config config.toolchains) s := if_pos root

/-- Without a root there is no run. -/
theorem runMatrix_of_not_root {s : Session (World π ω)}
    (root : ¬s.world.files.isDirectory host.start config.projectRoot = true) :
    host.runMatrix config s = (.error (.projectRoot config.projectRoot), s) := if_neg root

end Host

end Orchestrator
