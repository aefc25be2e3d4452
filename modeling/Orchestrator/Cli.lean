import Orchestrator.Boost.Build
import Orchestrator.Desk
import Orchestrator.Matrix
import Orchestrator.Order
import Orchestrator.Child.Runner

namespace Orchestrator

/-!
# The program

* `Caller` — where the program is called, and what it finds there.
* `Ending` — what the caller sees in the end: an exit code, two streams and the files.
* `Caller.integrate`, `Caller.setUpBoost` — the two tasks.
* `Caller.call` — the whole program, from its words to its end.
-/

/-- What a caller sees in the end. -/
structure Ending (π : Type) where
  code : Nat
  output : Array UInt8
  errors : String
  files : FileSystem π

/-- Where the program is called, and what it finds there. -/
structure Caller (π δ : Type) where
  machine : Child.Machine π
  /-- The directory that the program is called from. -/
  start : Place
  environment : Environment
  schedule : Child.Schedule
  /-- What takes the bytes of files, and its state in the beginning. -/
  disk : Outlet δ
  diskBefore : δ

/-- The text that ends a program that could not even begin, with its causes, outermost first. A
single cause is not numbered. -/
def setupError (trouble : String) (causes : List String) : String :=
  let lines :=
    match causes with
    | [cause] => ["    " ++ cause]
    | _ => causes.mapIdx fun i cause => "    " ++ toString i ++ ": " ++ cause
  "Error: " ++ trouble ++ "\n\nCaused by:\n" ++ String.join (lines.map (· ++ "\n"))

namespace Caller

variable {π δ : Type} (caller : Caller π δ)

/-- The exit code of a program that was called with words that spell no order. -/
def misuseCode : Nat := 2

/-- The line that tells the version. -/
def versionLine : String := "mce 0.1.0"

/-- The line that tells where a run is logged. -/
def logLine (transcript : Path) : String :=
  "CONTINUOUS_INTEGRATION_LOG[" ++ transcript.display ++ "]"

/-- The line that tells what stopped a task. -/
def errorLine (message : String) : String := "ERROR:" ++ message

/-- A path as it is resolved where the program is called. -/
def absolute (path : Path) : Path := caller.start.location.toPath.join path

/-- The launcher of a task that prints on `console` and holds files open. -/
def launcher {ω : Type} (console : Outlet (World π ω)) (held : ω → List Nat) :
    Child.Launcher π ω :=
  ⟨caller.machine, caller.start, caller.environment, console, held, caller.schedule⟩

/-- The host of a build and test run that is logged to an open file. -/
def integrationHost (transcript : FileSystem.Handle) : Host π (Desk δ) :=
  ⟨caller.start, Desk.sink (transcript.medium caller.disk),
    (caller.launcher Desk.console Desk.held).runner⟩

/-- What a caller sees of a run that ended. -/
def integrationEnding (outcome : Except Fault Outcome) (w : World π (Desk δ)) : Ending π :=
  let output := w.gear.terminal.taken
  match outcome with
  | .ok outcome => ⟨outcome.exitCode, output, "", w.files⟩
  | .error fault => ⟨1, output, errorLine fault.message ++ "\n", w.files⟩

/-- Build and test the project at a root. -/
def integrate (root log : Path) (files : FileSystem π) : Ending π :=
  let root := caller.absolute root
  let transcript := caller.absolute log
  match files.canonical caller.start root with
  | .error cause =>
    ⟨1, #[], setupError ("Failed to resolve project root " ++ root.display) [cause.text], files⟩
  | .ok root =>
    let terminal := Terminal.blank.print (logLine transcript)
    match Desk.openAt caller.start transcript terminal caller.diskBefore files with
    | .error fault =>
      ⟨1, terminal.taken, setupError ("Failed to open transcript " ++ transcript.display)
        (fault.message :: fault.cause?.toList.map Cause.text), files⟩
    | .ok w =>
      let config := Config.forProject root.toPath transcript
      match (caller.integrationHost w.gear.transcript).runMatrix config ⟨w, false⟩ with
      | (outcome, after) => integrationEnding outcome after.world

/-- The workshop of a Boost build. -/
def workshop : Boost.Workshop π Terminal where
  start := caller.start
  runner := (caller.launcher (Terminal.outlet .boundless) Terminal.held).runner
  print line w := { w with gear := w.gear.print line }

/-- Build Boost below the directory that the program is called from, unless it is built. -/
def setUpBoost (request : Boost.Request) (files : FileSystem π) : Ending π :=
  match caller.workshop.ensureBuilt request caller.start.location.toPath ⟨files, .blank⟩ with
  | (.ok _, w) => ⟨0, (w.gear.print "boost built").taken, "", w.files⟩
  | (.error failure, w) => ⟨1, (w.gear.print (errorLine failure.message)).taken, "", w.files⟩

/-- Call the program with the given words. -/
def call (words : List Bytes) (files : FileSystem π) : Ending π :=
  match Order.read caller.environment words with
  | .error .version => ⟨0, (Terminal.blank.print versionLine).taken, "", files⟩
  | .error .help => ⟨0, #[], "", files⟩
  | .error (.misuse _) => ⟨misuseCode, #[], "", files⟩
  | .ok (.integrate root log) => caller.integrate root log files
  | .ok (.setUpBoost request) => caller.setUpBoost request files

end Caller

end Orchestrator
