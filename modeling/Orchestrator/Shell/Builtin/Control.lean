import Orchestrator.Shell.Builtin.Directory
import Orchestrator.Shell.Builtin.Process
import Orchestrator.Shell.Builtin.Report
import Orchestrator.Shell.Builtin.Variable
import Orchestrator.Shell.Means

namespace Orchestrator.Shell

/-!
# The shell — builtins that decide what is carried out

* `Means.evaluateText`, `Means.source`, `Means.replace` — commands of a text or of a file, and a
  program in place of the shell.
* `Means.exit`, `Means.goBack`, `Means.leave` — the end of the shell, of functions and of loops.
* `Means.runBuiltin` — any builtin by its name.
-/

variable {π : Type}

namespace Means

variable (m : Means π)

/-- Carry out the text of arguments. -/
def evaluateText (standing : Standing) (arguments : List Bytes) : Run π Nat :=
  m.codeOfText standing.inside false ([32].intercalate arguments)

/-- The path of a file of commands: a name without a slash is looked for. -/
def sourcePath (name : Bytes) : Run π Path := do
  let s ← Run.state
  if name.contains Path.slash then pure ⟨name⟩
  else
    let paths := (directories s.searchPath).map fun dir => pathIn dir name
    match paths.find? (s.files.isFile s.directory) with
    | some path => pure path
    | none => giveUp (about name "not found")

/-- Carry out the commands of a file. -/
def source (arguments : List Bytes) : Run π Nat := do
  let (_, rest) ← options "" arguments
  match rest with
  | [] => pure 0
  | name :: _ => do
    let path ← sourcePath name
    let s ← Run.state
    match s.files.stat s.directory path with
    | .error cause =>
      giveUp (Text.encode "cannot open " ++ about path.bytes (openingTrouble "No such file" cause))
    | .ok landing => do
      let text :=
        match landing with
        | .file _ f => f.contents
        | _ => []
      Run.modify fun s => { s with running? := some path.bytes }
      fun s =>
        match m.codeOfText .plain true (text.filter (· != 0)) s with
        | (.error .goBack, after) => (.ok after.status, after)
        | other => other

/-- Let a program take the place of the shell. -/
def replace (arguments : List Bytes) : Run π Nat := do
  match arguments with
  | [] => pure 0
  | name :: rest => do
    let s ← Run.state
    let paths :=
      if name.contains Path.slash then [⟨name⟩]
      else (directories s.searchPath).map fun dir => pathIn dir name
    match ← startFirst m.machine name rest .noEntry paths with
    | .ok status => Run.stop (.replaced status)
    | .error cause => do
      complain (about name (programTrouble cause))
      Run.setStatus (troubleCode cause)
      Run.stop .exit

/-- End the shell. -/
def exit (arguments : List Bytes) : Run π Nat := do
  let s ← Run.state
  let code ← (arguments.head?.map countOf).getD (pure (s.verdict?.getD s.status))
  Run.setStatus code
  Run.stop .exit

/-- End the function or the text that runs. -/
def goBack (arguments : List Bytes) : Run π Nat := do
  let s ← Run.state
  let code ← (arguments.head?.map countOf).getD (pure s.status)
  Run.setStatus code
  Run.stop .goBack

/-- End loops, or let one go on. -/
def leave (goesOn : Bool) (arguments : List Bytes) : Run π Nat := do
  let count ← (arguments.head?.map countOf).getD (pure 1)
  if count = 0 then giveUp (Text.encode "Illegal number: " ++ arguments.headD [])
  let loops := min count (← Run.state).loops
  Run.setStatus 0
  if loops ≠ 0 then Run.stop (if goesOn then .again loops else .leave loops)
  pure 0

/-- Tell what a name stands for, as options say. -/
def explain (arguments : List Bytes) : Run π Nat := do
  let (found, rest) ← options "pvV" arguments
  let s ← Run.state
  let searchPath := if given 'p' found then standardSearchPath else s.searchPath
  match rest with
  | name :: _ =>
    if given 'v' found || given 'V' found then describe (given 'V' found) searchPath name
    else pure 0
  | [] => pure 0

/-- Complain that there is no command to be taken up. -/
def noJob : Run π Nat := giveUp (Text.encode "No current job")

/-- Carry out a builtin; returns its code. -/
def builtin (standing : Standing) (name : Bytes) (arguments : List Bytes) : Run π Nat :=
  match Text.decode name with
  | "false" => pure 1
  | "." => m.source arguments
  | "[" => examine true arguments
  | "alias" => tellAliases arguments
  | "bg" | "fg" => noJob
  | "break" => leave false arguments
  | "cd" | "chdir" => changeDirectory arguments
  | "command" => explain arguments
  | "continue" => leave true arguments
  | "echo" => echo arguments
  | "eval" => m.evaluateText standing arguments
  | "exec" => m.replace arguments
  | "exit" => exit arguments
  | "export" => declareAll false arguments
  | "getopts" => nextOption arguments
  | "hash" => remember arguments
  | "kill" => sendSignal arguments
  | "local" => localize arguments
  | "printf" => printFormatted arguments
  | "pwd" => tellDirectory arguments
  | "read" => readLine arguments
  | "readonly" => declareAll true arguments
  | "return" => goBack arguments
  | "set" => setParameters arguments
  | "shift" => shift arguments
  | "test" => examine false arguments
  | "times" => tellTimes
  | "trap" => setTraps arguments
  | "type" => describeAll arguments
  | "ulimit" => tellLimits arguments
  | "umask" => tellMask arguments
  | "unalias" => forgetAliases arguments
  | "unset" => unsetAll arguments
  | "wait" => await arguments
  | _ => pure 0

/-- Carry out a builtin. If it is not special, the shell goes on after a mistake. -/
def runBuiltin (standing : Standing) (isSpecial : Bool) (name : Bytes) (arguments : List Bytes) :
    Run π Unit := fun s =>
  let action : Run π Unit := do
    let code ← m.builtin standing name arguments
    if (← Run.state).isMuted then
      complain (about name "I/O error")
      Run.modify fun s => { s with isMuted := false, status := code ||| 1 }
    else Run.setStatus code
  let (outcome, after) := action { s with running? := some name, isMuted := false }
  let after := { after with running? := s.running? }
  match outcome with
  | .error .mistake => (if isSpecial then .error .mistake else .ok (), after)
  | outcome => (outcome, after)

end Means

end Orchestrator.Shell
