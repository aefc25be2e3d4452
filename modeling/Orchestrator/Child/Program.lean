import Orchestrator.Context
import Orchestrator.FileSystem.Basic

namespace Orchestrator.Child

/-!
# Children — what a program does

* `Invocation` — what a program is given when it is started.
* `Pipe` — the two streams that a program writes to.
* `Behaviour` — what a program writes, what it reads, and how it ends.
* `Machine` — what every program does.
-/

/-- How a process ended. -/
inductive Status where
  | exited (code : Nat)
  | killed (signal : Nat)
  deriving DecidableEq, Repr

/-- The exit code that stands for an end; a process that was killed has none of its own. -/
def Status.code : Status → Int
  | exited code => code
  | killed _ => -1

/-- What a program is given when it is started. -/
structure Invocation where
  /-- What the program is called. -/
  name : Bytes
  /-- The arguments after the program's own name. -/
  arguments : List Bytes
  environment : Environment
  /-- The directory that it runs in. -/
  directory : Place
  /-- What there is to read. -/
  input : Bytes
  deriving Repr

/-- The streams that a program writes to: its output and its error stream. -/
inductive Pipe where
  | out
  | err
  deriving DecidableEq, Repr

/-- What a program writes in order, what it leaves unread, and how it ends. -/
structure Behaviour where
  writes : List (Pipe × Bytes)
  unread : Bytes
  status : Status
  deriving DecidableEq, Repr

/-- All that a program writes to one of its streams. -/
def Behaviour.written (behaviour : Behaviour) (pipe : Pipe) : Bytes :=
  behaviour.writes.flatMap fun (target, bytes) => if target = pipe then bytes else []

/-- What every program does when it is started; it may change the file system in any way. -/
structure Machine (π : Type) where
  run : π → Invocation → FileSystem π → Behaviour × FileSystem π

end Orchestrator.Child
