import Orchestrator.Child.Signal
import Orchestrator.Script.Program
import Orchestrator.Shell.Session

namespace Orchestrator.Script

/-!
# Scripts — running scripted programs

* `perform` — what the steps of a program come to.
* `machine` — runs scripted programs, of which some are the shell.
-/

/-- What a scripted program has written so far, what it can still read, and the files as it left
them. -/
structure Progress where
  writes : Array (Child.Pipe × Bytes)
  input : Bytes
  files : FileSystem Program

namespace Progress

/-- Write to one of the streams. -/
def write (p : Progress) (pipe : Child.Pipe) (bytes : Bytes) : Progress :=
  { p with writes := p.writes.push (pipe, bytes) }

/-- The program ends. -/
def finish (p : Progress) (status : Child.Status) :
    Child.Behaviour × FileSystem Program :=
  (⟨p.writes.toList, p.input, status⟩, p.files)

end Progress

/-- A line of text. -/
def textLine (text : String) : Bytes := Text.encode (text ++ "\n")

/-- What a program shows of an argument. -/
def argumentLine (argument : Bytes) : Bytes :=
  Text.encode "<" ++ argument ++ textLine ">"

/-- What a program shows of a variable. -/
def variableLine (environment : Environment) (name : String) : Bytes :=
  (environment.value? (Text.encode name)).getD (Text.encode "(unset)") ++ [Text.newline]

/-- What a program shows of the directory it runs in; one that was taken away has no path. -/
def directoryLine (files : FileSystem Program) (directory : Place) : Bytes :=
  let shown := if files.isThere directory then directory.location.toPath.bytes else []
  shown ++ [Text.newline]

/-- What a program shows of what it could read. -/
def inputLine (input : Bytes) : Bytes := textLine (toString input.length ++ " bytes")

/-- Perform the steps of a program. The paths of its edits are below `base`, wherever the program
runs; `shell` is what the shell does. -/
def perform (base : Path) (shell : Child.Invocation → FileSystem Program →
      Child.Behaviour × FileSystem Program) (given : Child.Invocation) :
    Program → Progress → Child.Behaviour × FileSystem Program
  | [], p => p.finish (.exited 0)
  | .out bytes :: rest, p => perform base shell given rest (p.write .out bytes)
  | .err bytes :: rest, p => perform base shell given rest (p.write .err bytes)
  | .outVariable name :: rest, p =>
    perform base shell given rest (p.write .out (variableLine given.environment name))
  | .errVariable name :: rest, p =>
    perform base shell given rest (p.write .err (variableLine given.environment name))
  | .errDirectory :: rest, p =>
    perform base shell given rest (p.write .err (directoryLine p.files given.directory))
  | .errArguments :: rest, p =>
    perform base shell given rest (p.write .err (given.arguments.flatMap argumentLine))
  | .errInput :: rest, p =>
    perform base shell given rest { p.write .err (inputLine p.input) with input := [] }
  | .edits list :: rest, p =>
    perform base shell given rest { p with files := applyAll base list p.files }
  | .exit code :: _, p => p.finish (.exited (code.emod 256).toNat)
  | .kill signal :: rest, p =>
    if Child.isDeadly signal then p.finish (.killed signal)
    else perform base shell given rest p
  | .shell :: _, p =>
    let (behaviour, files) := shell { given with input := p.input } p.files
    ({ behaviour with writes := p.writes.toList ++ behaviour.writes }, files)

/-- Shells start one another at most so often; one more does nothing. -/
def shellLimit : Nat := 64

/-- What a shell does when at most `shells` more are started from it. -/
def shellOf (base : Path) : (shells : Nat) → Child.Invocation → FileSystem Program →
    Child.Behaviour × FileSystem Program
  | 0, given, files => (⟨[], given.input, .exited 0⟩, files)
  | shells + 1, given, files =>
    let machine : Child.Machine Program :=
      ⟨fun program given files =>
        perform base (shellOf base shells) given program ⟨#[], given.input, files⟩⟩
    Shell.call machine given files

/-- Runs scripted programs, whose edits are below `base`. -/
def machine (base : Path) : Child.Machine Program :=
  ⟨fun program given files =>
    perform base (shellOf base shellLimit) given program ⟨#[], given.input, files⟩⟩

end Orchestrator.Script
