import Orchestrator.Boost.Failure
import Orchestrator.Boost.Step
import Orchestrator.FileSystem.Change
import Orchestrator.Runner

namespace Orchestrator.Boost

/-!
# Boost — building it, at most once

* `Workshop` — what a build works with.
* `Workshop.perform` — one step: what it prints, the command it runs, and the product it asks for.
  It leads to a later step.
* `Workshop.runFrom` — the steps from a given one on, up to the first that fails.
* `Workshop.ensureBuilt` — go on where the files say that the last build stopped.

A build that finds its marker prints nothing, runs nothing and changes nothing.
-/

/-- What a build works with: where it was started, what runs its commands, and how it prints a line
for the user. -/
structure Workshop (π ω : Type) where
  start : Place
  runner : Runner (World π ω)
  print : String → World π ω → World π ω

/-- The steps that a build performed. -/
structure Report where
  performed : List Step
  deriving DecidableEq, Repr

/-- Nothing was left to do. -/
def Report.alreadyBuilt (r : Report) : Bool := r.performed.isEmpty

/-- The libraries that are built. -/
def b2Features : List String := ["--with-context", "--with-coroutine", "--with-thread"]

namespace Workshop

variable {π ω : Type} (shop : Workshop π ω) (request : Request) (layout : Layout)

/-- An action of a build. -/
abbrev Task (π ω α : Type) : Type := Action (World π ω) Failure α

/-- Print one line. -/
def say (line : String) : Task π ω Unit := fun w => (.ok (), shop.print line w)

/-- Fail unless the files pass a test. -/
def demand (test : FileSystem π → Bool) (failure : Failure) : Task π ω Unit := fun w =>
  if test w.files then (.ok (), w) else (.error failure, w)

/-- Run a command in a directory; it has to succeed. -/
def command (line : CommandLine) (dir : Path) (failure : Failure) : Task π ω Unit := do
  let result ← (shop.runner.execute line (.inDir dir)).mapError .runner
  if result.passed then pure () else Action.fail failure

/-- The command that downloads the sources. -/
def downloadCommand : CommandLine := ⟨"wget", [request.url]⟩

/-- The command that extracts the sources. -/
def extractCommand : CommandLine :=
  ⟨"tar", ["-xzvf", layout.tarball.display, "-C", layout.parentDir.display]⟩

/-- The command that makes the build tool. -/
def bootstrapCommand : CommandLine := .ofPath layout.bootstrap

/-- The command that builds the libraries. -/
def buildCommand : CommandLine := ⟨layout.b2.display, b2Features⟩

/-- Make the directory to extract into, with everything missing above it. -/
def makeParentDir : Task π ω Unit := fun w =>
  match w.files.makeDirectories shop.start layout.parentDir with
  | (.ok (), files) => (.ok (), { w with files := files })
  | (.error cause, files) => (.error (.createDir layout.parentDir cause), { w with files := files })

/-- Make the marker, an empty file. -/
def makeMarker : Task π ω Unit := fun w =>
  match w.files.createFile shop.start layout.marker with
  | .ok (_, files) => (.ok (), { w with files := files })
  | .error cause => (.error (.markerFailed layout.marker cause), w)

/-- The build tool is there. -/
def hasB2 : Task π ω Bool := fun w => (.ok (w.files.isFile shop.start layout.b2), w)

/-- A step that comes after the given one; after the last step there is none. -/
abbrev Later (step : Step) : Type := { next : Step // next.remaining < step.remaining }

/-- Perform one step; tells which one comes next. Sources may bring a build tool that is made
already. -/
def perform : (step : Step) → step ≠ .done → Task π ω (Later step)
  | .download, _ => do
    shop.command (downloadCommand request) layout.root .downloadFailed
    demand (·.isFile shop.start layout.tarball) .tarballMissing
    pure ⟨.extract, by decide⟩
  | .extract, _ => do
    shop.makeParentDir layout
    shop.command (extractCommand layout) layout.root .extractFailed
    demand (·.isDirectory shop.start layout.extractDir) .directoryMissing
    if ← shop.hasB2 layout then pure ⟨.build, by decide⟩ else pure ⟨.bootstrap, by decide⟩
  | .bootstrap, _ => do
    shop.say ("bootstrap:" ++ layout.bootstrap.display)
    demand (·.isFile shop.start layout.bootstrap) .bootstrapScriptMissing
    shop.command (bootstrapCommand layout) layout.extractDir .bootstrapFailed
    demand (·.isFile shop.start layout.b2) .b2Missing
    pure ⟨.build, by decide⟩
  | .build, _ => do
    shop.command (buildCommand layout) layout.extractDir .buildFailed
    shop.makeMarker layout
    pure ⟨.done, by decide⟩

/-- Where the build tool is or will be is told once, before the first step that works with it. -/
def announceB2 (told : Bool) (step : Step) : Task π ω Bool := do
  if (step = .bootstrap ∨ step = .build) ∧ told = false then
    shop.say ("b2:" ++ layout.b2.display)
    pure true
  else pure told

/-- Perform the steps from a given one on; `bound` is at least their number. Tells which were
performed, those performed `before` included. -/
def runFrom : (bound : Nat) → (told : Bool) → (before : List Step) → (step : Step) →
    step.remaining ≤ bound → Task π ω Report
  | 0, _, before, _, _ => pure ⟨before⟩
  | bound + 1, told, before, step, enough =>
    if isDone : step = .done then pure ⟨before⟩
    else do
      let told ← shop.announceB2 layout told step
      let ⟨next, later⟩ ← shop.perform request layout step isDone
      runFrom bound told (before ++ [step]) next (by omega)

/-- Tell where the build happens, and perform the steps from a given one on. -/
def complete (step : Step) : Task π ω Report := do
  shop.say ("boost root:" ++ layout.extractDir.display)
  if step = .download ∨ step = .extract then
    shop.say ("boost tarball:" ++ layout.tarball.display)
  shop.runFrom request layout step.remaining false [] step (Nat.le_refl _)

/-- Bring the build of a request below a root to its end. -/
def ensureBuilt (root : Path) : Task π ω Report := fun w =>
  let layout := request.layout root
  match Step.detect w.files shop.start layout with
  | .done => (.ok ⟨[]⟩, w)
  | step => shop.complete request layout step w

end Workshop

end Orchestrator.Boost
