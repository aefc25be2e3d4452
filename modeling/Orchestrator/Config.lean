import Orchestrator.Example
import Orchestrator.Toolchain

namespace Orchestrator

/-!
# Configuration of a project

* `Config` — what a run has to know about the project that it builds and tests.
* `Config.forProject` — a project laid out as is usual.
-/

/-- What a run has to know about a project. -/
structure Config where
  /-- The directory that every command runs in. -/
  projectRoot : Path
  /-- The file that is logged to beside the console. -/
  transcriptPath : Path
  /-- The directory that the examples are built in. -/
  examplesDir : Path
  /-- The directory of the test programs, below the root. -/
  testDir : String
  /-- The target of the unit tests. -/
  unitTestTarget : String
  /-- The target of the unit tests with the least dependencies. -/
  minimalUnitTestTarget : String
  /-- The target of all examples. -/
  examplesTarget : String
  /-- Which entries of the directory are run as examples. -/
  exampleFilter : ExampleFilter
  /-- The toolchains, in the order they are used. -/
  toolchains : List Toolchain
  deriving Repr, Inhabited

namespace Config

/-- Where a run is logged unless it is told otherwise. -/
def standardTranscript : String := "continuous_integration_output.txt"

/-- A project laid out as is usual. -/
def forProject (projectRoot transcriptPath : Path) : Config where
  projectRoot := projectRoot
  transcriptPath := transcriptPath
  examplesDir := projectRoot.child "ex"
  testDir := "tst"
  unitTestTarget := "mce_ut"
  minimalUnitTestTarget := "mce_ut_minimal"
  examplesTarget := "mce_ex"
  exampleFilter := .standard
  toolchains := Toolchain.matrix

/-- The test program of a target, as it is called from the project root. -/
def testProgram (config : Config) (target : String) : String :=
  "./" ++ config.testDir ++ "/" ++ target

/-- Two configurations are the same when their paths are and all else is equal. -/
def same (a b : Config) : Bool :=
  a.projectRoot.same b.projectRoot && a.transcriptPath.same b.transcriptPath
    && a.examplesDir.same b.examplesDir && a.testDir == b.testDir
    && a.unitTestTarget == b.unitTestTarget
    && a.minimalUnitTestTarget == b.minimalUnitTestTarget
    && a.examplesTarget == b.examplesTarget && a.exampleFilter == b.exampleFilter
    && a.toolchains == b.toolchains

end Config

end Orchestrator
