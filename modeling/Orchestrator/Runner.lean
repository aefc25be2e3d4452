import Orchestrator.CommandLine
import Orchestrator.Context
import Orchestrator.FileSystem.Basic
import Orchestrator.Sink

namespace Orchestrator

/-!
# Runners

* `CommandResult` — how a command ended and what it wrote to its error stream.
* `World` — the file system, and whatever else the tools of a run keep.
* `Runner` — what runs commands. It may change the world in any way, and may end with a fault.
-/

/-- How a command ended: its exit code and the text of its error stream. -/
structure CommandResult where
  code : Int
  errorText : String
  deriving DecidableEq, Repr

/-- A command succeeded if its exit code is zero. -/
def CommandResult.passed (r : CommandResult) : Bool := r.code == 0

/-- A file system and whatever else the tools of a run keep. -/
structure World (π ω : Type) where
  files : FileSystem π
  gear : ω

/-- The gear of a world as a part of it. -/
def World.gearPart (π ω : Type) : Part (World π ω) ω (FileSystem π) where
  split w := match w with | ⟨files, gear⟩ => (gear, files)
  join gear files := ⟨files, gear⟩
  split_join _ _ := rfl
  join_split _ := rfl

/-- What runs commands in a world. -/
structure Runner (σ : Type) where
  execute : CommandLine → Context → Action σ Fault CommandResult

/-- A command that was run, and where. -/
structure Call where
  command : CommandLine
  context : Context
  deriving DecidableEq, Repr

end Orchestrator
