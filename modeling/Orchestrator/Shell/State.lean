import Orchestrator.Child.Program
import Orchestrator.FileSystem.Change
import Orchestrator.Shell.Cursor

namespace Orchestrator.Shell

/-!
# The shell — its state

* `Stream` — what a descriptor leads to.
* `Variable` — a variable, and what may be done with it.
* `Frame` — what is put back when a function ends.
* `State` — all that commands work with.
* `Stop`, `Run` — an action on the state, and why commands after it are not carried out.
-/

variable {π : Type}

/-! ### Streams -/

/-- What a descriptor leads to. -/
inductive Stream where
  /-- Goes out of the shell. -/
  | pipe (target : Child.Pipe)
  /-- Keeps what is written, the last first. -/
  | sink (taken : List Bytes)
  /-- Gives what is still to be read. -/
  | source (rest : Bytes)
  /-- A file at some offset. -/
  | file (handle : FileSystem.Handle) (opening : Opening)
  /-- Takes everything and gives nothing. -/
  | nothing

/-- The descriptor of the input. -/
def inputDescriptor : Nat := 0

/-- The descriptor of the output. -/
def outputDescriptor : Nat := 1

/-- The descriptor of the error stream. -/
def errorDescriptor : Nat := 2

/-! ### Variables -/

/-- A variable, and what may be done with it. -/
structure Variable where
  value? : Option Bytes
  isExported : Bool
  isReadOnly : Bool
  deriving Repr

/-- Variables by name. -/
abbrev Variables := List (Bytes × Variable)

/-- What is put back when a function ends: variables as they were, and options. -/
structure Frame where
  before : List (Bytes × Option Variable)
  options? : Option Bytes
  deriving Repr

/-- How far the reading of options among arguments has come: which argument is next, and how many
letters of the one before it were read. -/
structure Progress where
  next : Nat
  letters? : Option Nat
  deriving DecidableEq, Repr

/-- No option was read. -/
def Progress.start : Progress := ⟨1, none⟩

/-! ### The state -/

/-- All that commands work with. -/
structure State (π : Type) where
  files : FileSystem π
  /-- The directory that relative paths start from. -/
  directory : Place
  /-- The way that led there. -/
  way : Bytes
  /-- The variables. -/
  table : Variables
  /-- What is put back when commands end that are running, the innermost first. -/
  frames : List Frame
  parameters : List Bytes
  progress : Progress
  /-- What the shell calls itself. -/
  name : Bytes
  functions : List (Bytes × Command)
  aliases : List (Bytes × Bytes)
  /-- The letters of the options that are on. -/
  options : Bytes
  /-- The code of the last command. -/
  status : Nat
  /-- The code of the last commands whose output was put into the words of a command. -/
  outputStatus : Nat
  /-- What went out of the shell, the last first. -/
  written : List (Child.Pipe × Bytes)
  /-- The builtin that runs could not write its output. -/
  isMuted : Bool
  streams : Array Stream
  /-- The stream of each open descriptor. -/
  descriptors : List (Nat × Nat)
  /-- What is done on a signal, or at the end. -/
  traps : List (Nat × Bytes)
  /-- Signals about which something is still to be done. -/
  signals : List Nat
  documents : List (Nat × Word)
  /-- The line of the command that runs. -/
  line : Nat
  /-- The line that the text is read up to. -/
  readTo : Nat
  /-- The builtin that runs, which complaints name. -/
  running? : Option Bytes
  /-- How many loops the command is in. -/
  loops : Nat
  /-- How many functions the command is in. -/
  calls : Nat
  /-- How the commands ended that were not waited for. -/
  backgrounds : List Child.Status
  /-- The code that the shell ends with, unless it is told another one. -/
  verdict? : Option Nat
  /-- The permissions that new files do not get. -/
  mask : Nat

/-- Why the commands that follow are not carried out. -/
inductive Stop where
  /-- The shell ends. -/
  | exit
  /-- Something went wrong and was complained about. -/
  | mistake
  /-- Another program took the place of the shell, and ended. -/
  | replaced (status : Child.Status)
  /-- So many loops end. -/
  | leave (loops : Nat)
  /-- So many loops but one end, and that one goes on. -/
  | again (loops : Nat)
  /-- The function or the text that runs ends. -/
  | goBack
  /-- The shell is killed by a signal. -/
  | killed (signal : Nat)
  /-- The commands take too long. -/
  | spent
  deriving DecidableEq, Repr

/-- An action on the state. -/
abbrev Run (π α : Type) : Type := Action (State π) Stop α

namespace Run

/-- The state as it is. -/
def state : Run π (State π) := fun s => (.ok s, s)

/-- Change the state. -/
def modify (f : State π → State π) : Run π Unit := fun s => (.ok (), f s)

/-- End with a code. -/
def setStatus (code : Nat) : Run π Unit := modify fun s => { s with status := code }

/-- Do an action and undo something behind it, however it ends. -/
def undoing {α : Type} (action : Run π α) (undo : State π → State π) : Run π α := fun s =>
  let (outcome, after) := action s
  (outcome, undo after)

/-- Stop here. -/
def stop {α : Type} (reason : Stop) : Run π α := Action.fail reason

end Run

end Orchestrator.Shell
