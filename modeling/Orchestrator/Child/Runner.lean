import Orchestrator.Child.Drain
import Orchestrator.Child.Launch
import Orchestrator.Runner

namespace Orchestrator.Child

/-!
# Children — the runner that starts programs

* `Launcher` — what the runner works with.
* `Launcher.runner` — starts the program of a command, echoes what it writes, and captures what it
  writes to its error stream. A command that cannot be started is a result like any other, with an
  exit code of its own.
-/

/-- The exit code of a command that cannot be started. -/
def launchFailureCode : Int := 127

/-- The error text of a command that cannot be started. -/
def launchFailureText (command : CommandLine) (cause : Cause) : String :=
  "failed to spawn `" ++ command.display ++ "`: " ++ cause.text ++ "\n"

/-- What the runner works with: what programs do, where it was started, the environment that
children inherit, the console that their output goes to, which files the gear of its world holds
open for writing, and how the pipes of a child are read. -/
structure Launcher (π ω : Type) where
  machine : Machine π
  start : Place
  inherited : Environment
  console : Outlet (World π ω)
  held : ω → List Nat
  schedule : Schedule

/-- Start the program of a command and see it to its end. -/
def Launcher.run {π ω : Type} (launcher : Launcher π ω) (command : CommandLine) (ctx : Context) :
    Action (World π ω) Fault CommandResult := fun w =>
  match launch ⟨w.files, launcher.held w.gear⟩ launcher.start launcher.inherited command ctx with
  | .error cause => (.ok ⟨launchFailureCode, launchFailureText command cause⟩, w)
  | .ok (program, given) =>
    let (behaviour, files) := launcher.machine.run program given w.files
    let pipes := Pipes.ofStreams (behaviour.written .out) (behaviour.written .err)
    match drain launcher.console launcher.schedule 0 "" pipes { w with files := files } with
    | (.error fault, after) => (.error fault, after)
    | (.ok captured, after) => (.ok ⟨behaviour.status.code, captured⟩, after)

/-- The runner that starts programs. -/
def Launcher.runner {π ω : Type} (launcher : Launcher π ω) : Runner (World π ω) where
  execute := launcher.run

end Orchestrator.Child
