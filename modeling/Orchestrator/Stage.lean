import Orchestrator.CommandLine
import Orchestrator.Config

namespace Orchestrator

/-!
# Stages of a run

Under every toolchain a project goes through four stages.

* `Stage.all` — the stages in order.
* `Stage.commands` — the commands of a stage that are known beforehand. Running the examples has
  none: they are looked up when the stage is reached.
-/

/-- What is done under one toolchain. -/
inductive Stage where
  | unitTests
  | minimalUnitTests
  | buildExamples
  | runExamples
  deriving DecidableEq, Repr

namespace Stage

/-- The stages in order. -/
def all : List Stage := [unitTests, minimalUnitTests, buildExamples, runExamples]

/-- The name of a stage. -/
def name : Stage → String
  | unitTests => "unit_tests"
  | minimalUnitTests => "minimal_unit_tests"
  | buildExamples => "build_examples"
  | runExamples => "run_examples"

/-- The stage of a given name. -/
def ofName? (name : String) : Option Stage := all.find? fun stage => stage.name == name

/-- Configure the project, build a test program and run it. -/
def testCommands (config : Config) (target : String) : List CommandLine :=
  [⟨"cmake", [config.projectRoot.display]⟩, ⟨"make", [target]⟩, ⟨config.testProgram target, []⟩]

/-- The commands of a stage that are known beforehand. -/
def commands (config : Config) : Stage → List CommandLine
  | unitTests => testCommands config config.unitTestTarget
  | minimalUnitTests => testCommands config config.minimalUnitTestTarget
  | buildExamples => [⟨"make", ["clean"]⟩, ⟨"make", [config.examplesTarget]⟩]
  | runExamples => []

end Stage

end Orchestrator
