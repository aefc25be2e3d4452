import Orchestrator.Cli
import Orchestrator.Script.Machine

/-!
# The command line

A rehearsal of the program: it runs on an empty file system with no programs but a working
directory, so every command of a run is shown with the reason why it cannot be started.
-/

namespace Orchestrator.Rehearsal

/-- The directory that a rehearsal is called from. -/
def directory : Location := [Text.encode "project"]

/-- The files of a rehearsal. -/
def files : FileSystem Script.Program := FileSystem.empty.addDirectory directory

/-- The variables that a rehearsal takes from its own environment. -/
def inheritedNames : List String := [Order.rootVariable, Order.logVariable]

/-- What a rehearsal runs on. -/
def caller (environment : Environment) : Caller Script.Program Unit where
  machine := Script.machine directory.toPath
  start := (files.directory .root directory.toPath).toOption.getD .root
  environment := environment
  schedule _ := .out
  disk := .boundless
  diskBefore := ()

end Orchestrator.Rehearsal

open Orchestrator

/-- Rehearse the program with the given words. -/
def main (arguments : List String) : IO UInt32 := do
  let bindings ← Rehearsal.inheritedNames.filterMapM fun name => do
    return (← IO.getEnv name).map fun value => (Text.encode name, Text.encode value)
  let caller := Rehearsal.caller (Environment.ofBindings bindings)
  let ending := caller.call (arguments.map Text.encode) Rehearsal.files
  (← IO.getStdout).write ⟨ending.output⟩
  (← IO.getStderr).putStr ending.errors
  return ending.code.toUInt32
