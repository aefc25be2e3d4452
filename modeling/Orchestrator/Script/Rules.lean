import Orchestrator.Bench
import Orchestrator.Script.Program

namespace Orchestrator.Script

/-!
# Scripts — runners with planned answers

* `Rule` — which commands it is for, what it changes, and what it answers.
* `respond` — the runner that goes by rules. The first rule for a command is the one that counts,
  and a command without a rule succeeds.
-/

/-- A planned answer to the commands that meet every condition of the rule. -/
structure Rule where
  /-- What the command displays as. -/
  command? : Option String
  /-- The file name of the program; it is empty for a path that ends in no name. -/
  program? : Option String
  /-- The C compiler of the context. -/
  cc? : Option String
  /-- How many commands came before. -/
  before? : Option Nat
  /-- What is changed before the answer. -/
  edits : List Edit
  /-- The answer, which may tell the command. -/
  answer : CommandLine → Except Fault CommandResult

/-- A condition holds where it is not made, or where it asks for what is there. -/
def allows {α : Type} [DecidableEq α] (asked? : Option α) (there? : Option α) : Bool :=
  match asked? with
  | none => true
  | some asked => there? == some asked

/-- The file name of a command's program. -/
def programName (command : CommandLine) : String :=
  Text.decode ((Path.ofString command.program).fileName?.getD [])

/-- The rule is for a command that comes after `before` others. -/
def Rule.isFor (rule : Rule) (call : Call) (before : Nat) : Bool :=
  allows rule.command? (some call.command.display)
    && allows rule.program? (some (programName call.command))
    && allows rule.cc? (call.context.var Toolchain.ccVariable)
    && allows rule.before? (some before)

/-- The runner that goes by rules; it counts its commands. The changes it makes are below `base`. -/
def respond (base : Path) (rules : List Rule) : Responder Program Nat :=
  fun call before files =>
    match rules.find? (·.isFor call before) with
    | none => (.ok ⟨0, ""⟩, before + 1, files)
    | some rule => (rule.answer call.command, before + 1, applyAll base rule.edits files)

end Orchestrator.Script
