import Orchestrator.Child.Launch
import Orchestrator.Child.Signal
import Orchestrator.Shell.Redirect

namespace Orchestrator.Shell

/-!
# The shell — finding commands

* `specialBuiltins`, `regularBuiltins` — the commands that are no programs. A mistake of a special
  one ends the shell.
* `Callee` — what a name stands for: a function, a builtin, or a program.
* `start` — run the program behind a path. A file that is no program is read by the shell, unless
  its first line is not text.
* `launch` — run the program that a name stands for, or say why that is not possible.
-/

variable {π : Type}

/-! ### Names -/

/-- Builtins whose mistakes end the shell. -/
def specialBuiltins : List String :=
  [".", ":", "break", "continue", "eval", "exec", "exit", "export", "local", "readonly", "return",
    "set", "shift", "times", "trap", "unset"]

/-- Builtins that are commands like any other. -/
def regularBuiltins : List String :=
  ["[", "alias", "bg", "cd", "chdir", "command", "echo", "false", "fg", "getopts", "hash", "jobs",
    "kill", "printf", "pwd", "read", "test", "true", "type", "ulimit", "umask", "unalias", "wait"]

/-- Builtins that take bindings as arguments. -/
def bindingBuiltins : List String := ["alias", "export", "local", "readonly"]

/-- A name is among texts. -/
def isAmong (name : Bytes) (texts : List String) : Bool := texts.contains (Text.decode name)

/-- What a name stands for. -/
inductive Callee where
  /-- There is no name. -/
  | nothing
  | function (body : Command)
  | builtin
  /-- A program, or nothing that is known. -/
  | program

/-- What a name stands for. -/
def State.callee (s : State π) (skipsFunctions : Bool) (name : Bytes) : Callee :=
  let function? := if skipsFunctions || name.contains Path.slash then none else
    s.functions.lookup name
  match function? with
  | some body => .function body
  | none =>
    if isAmong name specialBuiltins || isAmong name regularBuiltins then .builtin else .program

/-! ### Programs -/

/-- Where programs are looked for by commands that do not trust their variables. -/
def standardSearchPath : Bytes :=
  Text.encode "/usr/local/sbin:/usr/local/bin:/usr/sbin:/usr/bin:/sbin:/bin"

/-- The directories in a search path. -/
def directories (searchPath : Bytes) : List Bytes := searchPath.splitOn 58

/-- The variable with the search path. -/
def searchPathVariable : Bytes := Text.encode "PATH"

/-- The path that programs are looked for in. -/
def State.searchPath (s : State π) : Bytes := (s.get? searchPathVariable).getD []

/-- The path of a name in a directory; without a directory it is the name. -/
def pathIn (directory name : Bytes) : Path :=
  if directory = [] then ⟨name⟩ else ⟨directory ++ Path.slash :: name⟩

/-- The name is of nothing that can be found. -/
def namesNothing : Cause → Bool
  | .noEntry | .notADirectory => true
  | _ => false

/-- The paths in directories from the first on at which a file may be executed, or why there are
none; `last` is what was wrong before. -/
def State.candidates (s : State π) (name : Bytes) (last : Cause) :
    List Bytes → Except Cause (List Path)
  | [] => .error last
  | directory :: rest =>
    let path := pathIn directory name
    match s.files.stat s.directory path with
    | .error cause => s.candidates name (if namesNothing cause then last else cause) rest
    | .ok (.file _ f) =>
      if f.executable then .ok ((directory :: rest).map fun d => pathIn d name)
      else s.candidates name .denied rest
    | .ok _ => s.candidates name .denied rest

/-- The paths at which a program may be, or why there are none. -/
def State.programPaths (s : State π) (searchPath name : Bytes) : Except Cause (List Path) :=
  if name.contains Path.slash then .ok [⟨name⟩]
  else s.candidates name .noEntry (directories searchPath)

/-- Why a program cannot be run, in the words of the shell. -/
def programTrouble : Cause → String
  | .noEntry | .notADirectory => "not found"
  | .number n => Cause.meaning n
  | .words text => text

/-- The code of a command that is not found. -/
def notFoundCode : Nat := 127

/-- The code of a command that cannot be run. -/
def notRunCode : Nat := 126

/-- The code of a program that cannot be run. -/
def troubleCode (cause : Cause) : Nat :=
  if [Cause.noEntry, .notADirectory, .nameTooLong, .tooManyLinks].contains cause then notFoundCode
  else notRunCode

/-! ### Running -/

/-- So many bytes of a file tell whether it is text. -/
def sampleLength : Nat := 128

/-- A byte that no text has. -/
def isUntextual (b : UInt8) : Bool := b < 9 || (15 < b && b < 32 && b != 27) || b == 127

/-- The first line of a file has bytes that no text has. -/
def isBinary (contents : Bytes) : Bool :=
  ((contents.take sampleLength).takeWhile (· != Read.lineEnd)).any isUntextual

/-- Write what a program wrote. -/
def passOn : List (Child.Pipe × Bytes) → Run π Unit
  | [] => pure ()
  | (pipe, bytes) :: rest => do
    let descriptor :=
      match pipe with
      | .out => outputDescriptor
      | .err => errorDescriptor
    let _ ← write descriptor bytes
    passOn rest

/-- Run the program behind a path to its end. -/
def start (machine : Child.Machine π) (name : Bytes) (arguments : List Bytes) (path : Path) :
    Run π (Except Cause Child.Status) := do
  let s ← Run.state
  let input := (s.unread? inputDescriptor).getD []
  let given : Child.Invocation := ⟨name, arguments, s.environment, s.directory, input⟩
  let site : Child.Site π := ⟨s.files, s.held⟩
  let found :=
    match site.execute given path with
    | .error .notAProgram =>
      if ((s.files.read? s.directory path).getD []).isEmpty
          || !isBinary ((s.files.read? s.directory path).getD []) then
        site.executeShell given path
      else .error .notAProgram
    | other => other
  match found with
  | .error cause => pure (.error cause)
  | .ok (program, given) => do
    let (behaviour, files) := machine.run program given s.files
    Run.modify fun s =>
      ({ s with files := files }).consume inputDescriptor (input.length - behaviour.unread.length)
    passOn behaviour.writes
    pure (.ok behaviour.status)

/-- Run the program behind the first path that has one. What is wrong with the others is forgotten,
unless it is more than that there is none. -/
def startFirst (machine : Child.Machine π) (name : Bytes) (arguments : List Bytes)
    (last : Cause) : List Path → Run π (Except Cause Child.Status)
  | [] => pure (.error last)
  | path :: rest => do
    match ← start machine name arguments path with
    | .ok status => pure (.ok status)
    | .error cause =>
      startFirst machine name arguments (if namesNothing cause then last else cause) rest

/-- How a program ended, as the shell tells it: a number, after words about a signal. -/
def tellEnd : Child.Status → Run π Nat
  | .exited code => pure code
  | .killed signal => do
    if !Child.quietSignals.contains signal then
      writeError (Text.encode (Child.signalMeaning signal))
    pure (128 + signal)

/-- Run the program that a name stands for; tells how it ended, if it could be run. -/
def launch (machine : Child.Machine π) (searchPath name : Bytes) (arguments : List Bytes) :
    Run π (Option Child.Status) := do
  match (← Run.state).programPaths searchPath name with
  | .error cause => do
    complain (about name (programTrouble cause))
    Run.setStatus notFoundCode
    pure none
  | .ok paths => do
    match ← startFirst machine name arguments .noEntry paths with
    | .ok status => pure (some status)
    | .error cause => do
      complain (about name (programTrouble cause))
      Run.setStatus (troubleCode cause)
      pure none

end Orchestrator.Shell
