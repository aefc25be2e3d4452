import Orchestrator.FileSystem.Query

namespace Orchestrator.FileSystem

/-!
# File systems — changes

* `makeDirectory`, `makeDirectories` — one directory, or a directory with all that is missing above.
* `createFile` — an empty file: a new one, or an existing one cut down to nothing. A device that
  stands there is opened in its place.
* `openFile` — a file as it is, or a new one.
* `Handle.write` — bytes written through an open file, which land in that file and no other.
* `makeLink`, `remove`, `writeFile` — the changes that other programs make.
-/

variable {π : Type}

/-! ### Directories -/

/-- Make one directory. -/
def makeDirectory (fs : FileSystem π) (start : Place) (path : Path) :
    Except Cause (FileSystem π) :=
  match fs.resolveEntry start path with
  | .ok (.free at_ _) => .ok (fs.addDirectory at_)
  | .ok _ => .error .taken
  | .error cause => .error cause

/-- Make a directory that may stand already. -/
def ensureDirectory (fs : FileSystem π) (start : Place) (path : Path) :
    Except Cause Unit × FileSystem π :=
  match fs.makeDirectory start path with
  | .ok after => (.ok (), after)
  | .error cause => if fs.isDirectory start path then (.ok (), fs) else (.error cause, fs)

/-- Make a directory. Where a directory above it is missing, `above` is done first; any other
refusal is final. -/
def makeBelow (start : Place) (path : Path)
    (above : FileSystem π → Except Cause Unit × FileSystem π) (fs : FileSystem π) :
    Except Cause Unit × FileSystem π :=
  match fs.makeDirectory start path with
  | .error .noEntry =>
    match above fs with
    | (.ok (), after) => after.ensureDirectory start path
    | failed => failed
  | _ => fs.ensureDirectory start path

/-- Make the directory that the steps lead to, the last step first in the list, with everything
missing above it. -/
def makeAll (start : Place) : List Component → FileSystem π → Except Cause Unit × FileSystem π
  | [], fs => (.ok (), fs)
  | step :: above, fs =>
    makeBelow start (Path.ofComponents (step :: above).reverse) (makeAll start above) fs

/-- Make everything that is missing above a path. -/
def makeParents (start : Place) (path : Path) (fs : FileSystem π) :
    Except Cause Unit × FileSystem π :=
  makeAll start path.components.reverse.tail fs

/-- Make a directory with everything missing above it. -/
def makeDirectories (fs : FileSystem π) (start : Place) (path : Path) :
    Except Cause Unit × FileSystem π :=
  if path.components = [] then (.ok (), fs)
  else makeBelow start path (makeParents start path) fs

/-! ### Files -/

/-- An open file or device: where it was opened, which one it is, and where the next byte goes. -/
structure Handle where
  at_ : Location
  serial : Nat
  offset : Nat
  /-- The device, if it is one. -/
  device? : Option Device
  deriving DecidableEq, Repr

/-- Open a file for writing, empty. A file that stands there keeps its permission to be executed;
a device stays as it is. -/
def createFile (fs : FileSystem π) (start : Place) (path : Path) :
    Except Cause (Handle × FileSystem π) :=
  match fs.resolve start .create path with
  | .error cause => .error cause
  | .ok (.file at_ f) =>
    .ok (⟨at_, f.serial, 0, none⟩, fs.put at_ (.file { f with contents := [], program := none }))
  | .ok (.device at_ d) =>
    match d.shut? with
    | some cause => .error cause
    | none => .ok (⟨at_, d.serial, 0, some d⟩, fs)
  | .ok (.free at_ _) =>
    .ok (⟨at_, fs.fresh, 0, none⟩,
      { fs.put at_ (.file ⟨fs.fresh, [], false, none⟩) with fresh := fs.fresh + 1 })
  | .ok _ => .error .isADirectory

/-- Open a file for writing as it is; a new one is empty. -/
def openFile (fs : FileSystem π) (start : Place) (path : Path) :
    Except Cause (Handle × FileSystem π) :=
  match fs.resolve start .create path with
  | .ok (.file at_ f) => .ok (⟨at_, f.serial, 0, none⟩, fs)
  | _ => fs.createFile start path

/-- Put bytes into contents at an offset; a gap before it is filled with zeros. -/
def overwrite (contents : Bytes) (offset : Nat) (bytes : Bytes) : Bytes :=
  contents.take offset ++ List.replicate (offset - contents.length) 0 ++ bytes
    ++ contents.drop (offset + bytes.length)

/-- The file that a handle was opened for, while it stands where it was opened. -/
def Handle.file? (h : Handle) (fs : FileSystem π) : Option (File π) :=
  match h.device?, fs.node? h.at_ with
  | none, some (.file f) => if f.serial = h.serial then some f else none
  | _, _ => none

/-- Write bytes through an open file. A file that was taken away takes them unseen, and so does a
device. -/
def Handle.write (h : Handle) (bytes : Bytes) (fs : FileSystem π) : Handle × FileSystem π :=
  let after :=
    match h.file? fs with
    | some f =>
      let contents := overwrite f.contents h.offset bytes
      fs.put h.at_ (.file { f with contents := contents, program := none })
    | none => fs
  ({ h with offset := h.offset + bytes.length }, after)

/-! ### What other programs do -/

/-- Make a file with the given contents. -/
def writeFile (fs : FileSystem π) (start : Place) (path : Path) (contents : Bytes) :
    Except Cause (FileSystem π) :=
  (fs.createFile start path).map fun (handle, after) => (handle.write contents after).2

/-- Let a file be executed, as the program `program?` or as what its contents say. A device is no
program, whatever its permissions. -/
def makeExecutable (fs : FileSystem π) (start : Place) (path : Path) (program? : Option π) :
    Except Cause (FileSystem π) :=
  match fs.stat start path with
  | .ok (.file at_ f) =>
    .ok (fs.put at_ (.file { f with executable := true, program := program? }))
  | .ok (.device _ _) => .ok fs
  | .ok _ => .error .isADirectory
  | .error cause => .error cause

/-- Make a symbolic link. Its target need not exist, but has to be a path. -/
def makeLink (fs : FileSystem π) (start : Place) (path target : Path) :
    Except Cause (FileSystem π) :=
  match refusal? target with
  | some cause => .error cause
  | none =>
    match fs.resolve start .keep path with
    | .ok (.free at_ slashed) =>
      if slashed then .error .noEntry else .ok (fs.put at_ (.link target))
    | .ok _ => .error .taken
    | .error cause => .error cause

/-- A path names the directory that it leads to, and is not only a way there through dots or a
link. -/
def namesDirectory (fs : FileSystem π) (start : Place) (path : Path) (place : Place) : Bool :=
  let last? := (path.parts.reverse.dropWhile (· == [])).head?
  let isName := last? ≠ some Path.dot && last? ≠ some Path.dotDot
  match fs.resolveEntry start path with
  | .ok (.directory there) => isName && there = place
  | _ => false

/-- Take away all that is in a directory, and then the directory itself, if the path still names it
when it is empty. -/
def removeDirectory (fs : FileSystem π) (start : Place) (path : Path) (place : Place) :
    FileSystem π :=
  let emptied := if fs.isThere place then fs.eraseBelow place.location else fs
  if place ≠ .root ∧ emptied.namesDirectory start path place then
    emptied.eraseTree place.location
  else emptied

/-- Take away a file, a device, a link, or a directory with all that is in it. -/
def remove (fs : FileSystem π) (start : Place) (path : Path) : Except Cause (FileSystem π) :=
  match fs.resolve start .keep path with
  | .ok (.directory place) => .ok (fs.removeDirectory start path place)
  | .ok (.file at_ _) | .ok (.device at_ _) | .ok (.link at_ _) => .ok (fs.eraseTree at_)
  | .ok (.free _ _) => .error .noEntry
  | .error cause => .error cause

end Orchestrator.FileSystem
