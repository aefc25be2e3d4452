import Orchestrator.FileSystem.Change
import Orchestrator.Text.Lines

namespace Orchestrator.Script

/-!
# Scripts — programs with planned steps

* `Step`, `Edit` — what a scripted program does, and how it changes the files. An edit may put
  further scripted programs in place.
* `Edit.apply` — one change. A change that the system refuses is left out.
-/

mutual

/-- A change of the files. What is missing above a file, a link or a scripted program is made
first. -/
inductive Edit where
  /-- Make a directory with everything missing above it. -/
  | directory (path : Path)
  /-- Give a file new contents. -/
  | file (path : Path) (contents : Bytes)
  /-- Make a symbolic link. -/
  | link (path target : Path)
  /-- Take away a file, a link or a whole directory. -/
  | remove (path : Path)
  /-- Put a scripted program in place. -/
  | program (path : Path) (steps : List Step)
  /-- Make a file that may be executed, as what its contents say, in a directory that is there. -/
  | executable (path : Path) (contents : Bytes)

/-- A step of a scripted program. -/
inductive Step where
  | out (bytes : Bytes)
  | err (bytes : Bytes)
  /-- Write the value of a variable to the output. -/
  | outVariable (name : String)
  /-- Write the value of a variable to the error stream. -/
  | errVariable (name : String)
  /-- Write the directory that the program runs in to the error stream. -/
  | errDirectory
  /-- Write the arguments to the error stream, each between angle brackets on a line of its own. -/
  | errArguments
  /-- Read all there is to read, and write how much it is to the error stream. -/
  | errInput
  | edits (list : List Edit)
  /-- Exit; the system keeps the code modulo 256. -/
  | exit (code : Int)
  /-- Send a signal to itself. -/
  | kill (signal : Nat)
  /-- Do what the shell does with the same arguments, and exit as it does. -/
  | shell

end

/-- A scripted program; it exits with code zero after its last step. -/
abbrev Program : Type := List Step

/-! ### Changes of the files -/

/-- Make a change; the files stay as they are where it is refused. -/
def unlessRefused (change : FileSystem Program → Except Cause (FileSystem Program))
    (fs : FileSystem Program) : FileSystem Program :=
  match change fs with
  | .ok after => after
  | .error _ => fs

/-- Make what is missing above a path, then make a change. -/
def withParents (path : Path)
    (change : FileSystem Program → Except Cause (FileSystem Program))
    (fs : FileSystem Program) : FileSystem Program :=
  unlessRefused change (FileSystem.makeParents .root path fs).2

/-- Make one change; its paths are below `base`, itself an absolute path. -/
def Edit.apply (base : Path) (fs : FileSystem Program) : Edit → FileSystem Program
  | .directory path => (fs.makeDirectories .root (base.join path)).2
  | .file path contents =>
    let path := base.join path
    withParents path (·.writeFile .root path contents) fs
  | .link path target =>
    let path := base.join path
    withParents path (·.makeLink .root path target) fs
  | .remove path => unlessRefused (·.remove .root (base.join path)) fs
  | .program path steps =>
    let path := base.join path
    withParents path (fun fs => do
      (← fs.writeFile .root path []).makeExecutable .root path (some steps)) fs
  | .executable path contents =>
    let path := base.join path
    unlessRefused (fun fs => do
      (← fs.writeFile .root path contents).makeExecutable .root path none) fs

/-- Make changes in order. -/
def applyAll (base : Path) (edits : List Edit) (fs : FileSystem Program) : FileSystem Program :=
  edits.foldl (Edit.apply base) fs

end Orchestrator.Script
