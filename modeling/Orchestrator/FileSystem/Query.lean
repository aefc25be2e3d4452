import Orchestrator.FileSystem.Walk

namespace Orchestrator.FileSystem

/-!
# File systems — questions

Questions about what a path leads to; every one follows links.

* `isFile`, `isDirectory`, `isDevice` — what stands there.
* `list` — the names in a directory.
* `canonical` — the location itself, free of links and dots. The path may be of any length, but not
  what it leads through.
* `read?` — the contents of a file; there is nothing in a device.
-/

variable {π : Type}

/-- What a path leads to. -/
def stat (fs : FileSystem π) (start : Place) (path : Path) : Except Cause (Landing π) :=
  match fs.resolve start .follow path with
  | .ok (.free _ _) => .error .noEntry
  | landing => landing

/-- The path leads to a regular file. -/
def isFile (fs : FileSystem π) (start : Place) (path : Path) : Bool :=
  match fs.stat start path with
  | .ok (.file _ _) => true
  | _ => false

/-- The path leads to a directory. -/
def isDirectory (fs : FileSystem π) (start : Place) (path : Path) : Bool :=
  match fs.stat start path with
  | .ok (.directory _) => true
  | _ => false

/-- The path leads to a device. -/
def isDevice (fs : FileSystem π) (start : Place) (path : Path) : Bool :=
  match fs.stat start path with
  | .ok (.device _ _) => true
  | _ => false

/-- The directory that a path leads to. -/
def directory (fs : FileSystem π) (start : Place) (path : Path) : Except Cause Place :=
  match fs.stat start path with
  | .ok (.directory place) => .ok place
  | .ok _ => .error .notADirectory
  | .error cause => .error cause

/-- The names in the directory that a path leads to, in no particular order. -/
def list (fs : FileSystem π) (start : Place) (path : Path) : Except Cause (List Bytes) :=
  (fs.directory start path).map fs.names

/-- The location that a path leads to. A relative path needs a directory that is there to start
from. -/
def canonical (fs : FileSystem π) (start : Place) (path : Path) : Except Cause Location :=
  let from_ := origin start path
  if path.bytes.contains 0 then .error .zeroInPath
  else if path.bytes = [] ∨ !fs.isThere from_ then .error .noEntry
  else
    match fs.walk .spell linkLimit from_ path.parts with
    | .ok (.directory place) => .ok place.location
    | .ok (.file at_ _) | .ok (.device at_ _) => .ok at_
    | .ok _ => .error .noEntry
    | .error cause => .error cause

/-- What can be read from the file or the device that a path leads to. -/
def read? (fs : FileSystem π) (start : Place) (path : Path) : Option Bytes :=
  match fs.stat start path with
  | .ok (.file _ f) => some f.contents
  | .ok (.device _ _) => some []
  | _ => none

/-- What stands below a location, each entry with its names from there down. -/
def below (fs : FileSystem π) (at_ : Location) : List (Location × Node π) :=
  fs.entries.filterMap fun (there, node) =>
    if at_.isPrefixOf there ∧ there ≠ at_ then some (there.drop at_.length, node) else none

end Orchestrator.FileSystem
