import Orchestrator.Cause
import Orchestrator.Path

namespace Orchestrator

/-!
# File systems

A file system is a finite table from locations to what stands there.

* `Location` — the names from the root down; the root itself is always a directory.
* `Node` — a directory, a regular file, a device or a symbolic link.
* `Place` — a directory as those in it know it, whatever becomes of its location.
* `FileSystem` — the table, with `node?`, `put`, `eraseTree` and `eraseBelow` as its only
  primitives.

What runs when a file is executed is not the concern of a file system: it is a value of a type `π`
that the file carries.
-/

/-- A place in a file system: the names from the root down to it. -/
abbrev Location := List Bytes

/-- The path that spells a location from the root. -/
def Location.toPath (at_ : Location) : Path :=
  if at_ = [] then ⟨[Path.slash]⟩ else ⟨at_.flatMap (Path.slash :: ·)⟩

/-! ### What stands there -/

/-- A regular file. Its `serial` tells it from a file that takes its place later. -/
structure File (π : Type) where
  serial : Nat
  contents : Bytes
  executable : Bool
  program : Option π
  deriving Repr

/-- A device. There is nothing to be read from it, and it keeps nothing of what it takes. -/
structure Device where
  serial : Nat
  /-- Why it cannot be opened for writing. -/
  shut? : Option Cause
  /-- Why it takes nothing that is written to it. -/
  full? : Option Cause
  deriving DecidableEq, Repr

/-- What stands at a location. A directory has a serial as a file has. -/
inductive Node (π : Type) where
  | directory (serial : Nat)
  | file (f : File π)
  | device (d : Device)
  | link (target : Path)
  deriving Repr

/-! ### Directories to be in -/

/-- A directory as those in it know it: the names from the root down to it, each with the serial of
the directory that bears it. It stays this directory when it is taken away; then nothing is found in
it, whatever stands at its location by that time. -/
structure Place where
  way : List (Bytes × Nat)
  deriving DecidableEq, Repr

namespace Place

/-- The root. -/
def root : Place := ⟨[]⟩

/-- Where the directory stands, or stood. -/
def location (place : Place) : Location := place.way.map (·.1)

/-- The directory above; the root is above itself. -/
def parent (place : Place) : Place := ⟨place.way.dropLast⟩

/-- The directory that a name in this one leads to. -/
def enter (place : Place) (name : Bytes) (serial : Nat) : Place := ⟨place.way ++ [(name, serial)]⟩

@[simp] theorem location_root : root.location = [] := rfl

@[simp] theorem location_enter (place : Place) (name : Bytes) (serial : Nat) :
    (place.enter name serial).location = place.location ++ [name] := by simp [location, enter]

end Place

/-! ### The table -/

/-- The table of a file system; `fresh` is the serial of the next file or directory. -/
structure FileSystem (π : Type) where
  entries : List (Location × Node π)
  fresh : Nat
  deriving Repr

namespace FileSystem

variable {π : Type}

/-- The serial of the root. -/
def rootSerial : Nat := 0

/-- A file system with nothing in its root. -/
def empty : FileSystem π := ⟨[], rootSerial + 1⟩

instance : Inhabited (FileSystem π) := ⟨empty⟩

/-- What stands at a location, if anything. -/
def node? (fs : FileSystem π) (at_ : Location) : Option (Node π) :=
  if at_ = [] then some (.directory rootSerial)
  else (fs.entries.find? fun entry => entry.1 == at_).map (·.2)

/-- Let a node stand at a location, in place of what stood there. -/
def put (fs : FileSystem π) (at_ : Location) (node : Node π) : FileSystem π :=
  { fs with entries := (at_, node) :: fs.entries.filter fun entry => entry.1 != at_ }

/-- Let a new directory stand at a location. -/
def addDirectory (fs : FileSystem π) (at_ : Location) : FileSystem π :=
  { fs.put at_ (.directory fs.fresh) with fresh := fs.fresh + 1 }

/-- Let a new device stand at a location. -/
def addDevice (fs : FileSystem π) (at_ : Location) (shut? full? : Option Cause) : FileSystem π :=
  { fs.put at_ (.device ⟨fs.fresh, shut?, full?⟩) with fresh := fs.fresh + 1 }

/-- Take away a location and everything below it. -/
def eraseTree (fs : FileSystem π) (at_ : Location) : FileSystem π :=
  { fs with entries := fs.entries.filter fun entry => !at_.isPrefixOf entry.1 }

/-- Take away everything below a location. -/
def eraseBelow (fs : FileSystem π) (at_ : Location) : FileSystem π :=
  { fs with entries := fs.entries.filter fun entry => entry.1 == at_ || !at_.isPrefixOf entry.1 }

/-- The directory of a place was not taken away. -/
def isThere (fs : FileSystem π) (place : Place) : Bool :=
  match place.way.getLast?, fs.node? place.location with
  | none, _ => true
  | some (_, serial), some (.directory there) => serial == there
  | _, _ => false

/-- The names in a directory; there are none once it is taken away. -/
def names (fs : FileSystem π) (place : Place) : List Bytes :=
  if fs.isThere place then
    fs.entries.filterMap fun (below, _) =>
      if below ≠ [] ∧ below.dropLast = place.location then below.getLast? else none
  else []

/-! ### How the primitives meet -/

@[simp] theorem node?_nil (fs : FileSystem π) : fs.node? [] = some (.directory rootSerial) := by
  simp [node?]

@[simp] theorem node?_put_self (fs : FileSystem π) {at_ : Location} (node : Node π)
    (h : at_ ≠ []) : (fs.put at_ node).node? at_ = some node := by
  simp [node?, put, h]

theorem node?_put_of_ne (fs : FileSystem π) {at_ other : Location} (node : Node π)
    (h : other ≠ at_) : (fs.put at_ node).node? other = fs.node? other := by
  unfold node? put
  split
  · rfl
  · have key : (fs.entries.filter fun entry => entry.1 != at_).find? (fun entry => entry.1 == other)
        = fs.entries.find? fun entry => entry.1 == other := by
      rw [List.find?_filter]
      congr 1
      funext entry
      by_cases e : entry.1 = other
      · simp [e, h]
      · simp [e]
    simp [Ne.symm h, key]

@[simp] theorem fresh_put (fs : FileSystem π) (at_ : Location) (node : Node π) :
    (fs.put at_ node).fresh = fs.fresh := rfl

@[simp] theorem fresh_eraseBelow (fs : FileSystem π) (at_ : Location) :
    (fs.eraseBelow at_).fresh = fs.fresh := rfl

@[simp] theorem fresh_addDirectory (fs : FileSystem π) (at_ : Location) :
    (fs.addDirectory at_).fresh = fs.fresh + 1 := rfl

@[simp] theorem isThere_root (fs : FileSystem π) : fs.isThere .root = true := rfl

@[simp] theorem fresh_eraseTree (fs : FileSystem π) (at_ : Location) :
    (fs.eraseTree at_).fresh = fs.fresh := rfl

end FileSystem

end Orchestrator
