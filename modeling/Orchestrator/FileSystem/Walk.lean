import Orchestrator.Cause
import Orchestrator.FileSystem.Basic

namespace Orchestrator.FileSystem

/-!
# File systems — walking a path

A path is walked part by part from the root or from a directory that the caller names.

* `walkFrom` — the walk up to the first link that has to be followed.
* `walk` — the whole walk: a link is replaced by its target, at most `linkLimit` times.
* `resolve` — the walk of a path as it is handed to the system, with the checks made before.

A walk ends at what stands there or at a free name in a directory (`Landing`). Every part but the
last must lead into a directory, so a file at `d/x` has a directory at `d`. In a directory that was
taken away no name leads anywhere, and none is free.
-/

variable {π : Type}

/-- A name is at most this long. -/
def nameLimit : Nat := 255

/-- A path is shorter than this. -/
def pathLimit : Nat := 4096

/-- A walk follows at most this many links. -/
def linkLimit : Nat := 40

/-- Where a walk ends. A free name may have slashes behind it, and then only a directory fits. -/
inductive Landing (π : Type) where
  | directory (place : Place)
  | file (at_ : Location) (f : File π)
  | device (at_ : Location) (d : Device)
  | link (at_ : Location) (target : Path)
  | free (at_ : Location) (slashed : Bool)
  deriving Repr

/-- How a walk treats what it meets. -/
inductive Manner where
  /-- Every link is followed. -/
  | follow
  /-- A link is left alone where the path ends. -/
  | keep
  /-- Every link is followed, for a file to be made; a slash behind a name asks for a directory,
  whatever stands there. -/
  | create
  /-- Every link is followed, and every location on the way is spelled as a path of its own. -/
  | spell
  deriving DecidableEq, Repr

/-! ### Spelling a location -/

/-- The parts behind a name ask for a directory: nothing else is named before the path ends or goes
up. -/
def asksForDirectory (rest : List Bytes) : Bool :=
  match rest.dropWhile fun part => part == [] || part == Path.dot with
  | [] => !rest.isEmpty
  | part :: _ => part == Path.dotDot

/-- A location with the parts `rest` behind it is too long to be spelled. One that has to be a
directory is spelled with a slash at its end. -/
def isTooLong (at_ : Location) (rest : List Bytes) : Bool :=
  pathLimit ≤ at_.toPath.bytes.length + if asksForDirectory rest then 1 else 0

/-! ### The walk -/

/-- Walk `parts` from `here`. At a link that has to be followed the walk goes on with `jump`, from
the directory that the link's target starts in and with the target's parts put in front. -/
def walkFrom (fs : FileSystem π) (manner : Manner)
    (jump : Place → List Bytes → Except Cause (Landing π)) :
    Place → List Bytes → Except Cause (Landing π)
  | here, [] => .ok (.directory here)
  | here, part :: rest =>
    if part = [] ∨ part = Path.dot then walkFrom fs manner jump here rest
    else if part = Path.dotDot then walkFrom fs manner jump here.parent rest
    else if manner = .create ∧ rest ≠ [] ∧ rest.all (· == []) then .error .isADirectory
    else if !fs.isThere here then .error .noEntry
    else if nameLimit < part.length then .error .nameTooLong
    else
      let there := here.location ++ [part]
      match fs.node? there with
      | some (.link target) =>
        if manner = .spell ∧ isTooLong there [] then .error .nameTooLong
        else if manner = .keep ∧ rest = [] then .ok (.link there target)
        else jump (if target.isAbsolute then .root else here) (target.parts ++ rest)
      | node? =>
        if manner = .spell ∧ isTooLong there rest then .error .nameTooLong
        else
          match node? with
          | some (.directory serial) => walkFrom fs manner jump (here.enter part serial) rest
          | some (.file f) => if rest = [] then .ok (.file there f) else .error .notADirectory
          | some (.device d) => if rest = [] then .ok (.device there d) else .error .notADirectory
          | _ => if rest.all (· == []) then .ok (.free there !rest.isEmpty) else .error .noEntry

/-- Walk `parts` from `here`, following at most `links` links. -/
def walk (fs : FileSystem π) (manner : Manner) :
    (links : Nat) → Place → List Bytes → Except Cause (Landing π)
  | 0 => walkFrom fs manner fun _ _ => .error .tooManyLinks
  | links + 1 => walkFrom fs manner (walk fs manner links)

/-- What the system refuses before it looks at any directory. -/
def refusal? (path : Path) : Option Cause :=
  if path.bytes.contains 0 then some .zeroInPath
  else if path.bytes = [] then some .noEntry
  else if pathLimit ≤ path.bytes.length then some .nameTooLong
  else none

/-- The directory that a path starts from. -/
def origin (start : Place) (path : Path) : Place :=
  if path.isAbsolute then .root else start

/-- Walk a path from the directory `start`. -/
def resolve (fs : FileSystem π) (start : Place) (manner : Manner) (path : Path) :
    Except Cause (Landing π) :=
  match refusal? path with
  | some cause => .error cause
  | none => fs.walk manner linkLimit (origin start path) path.parts

/-- Walk a path without the slashes at its end, and without following a link there. -/
def resolveEntry (fs : FileSystem π) (start : Place) (path : Path) : Except Cause (Landing π) :=
  match refusal? path with
  | some cause => .error cause
  | none =>
    let parts := (path.parts.reverse.dropWhile (· == [])).reverse
    fs.walk .keep linkLimit (origin start path) parts

end Orchestrator.FileSystem
