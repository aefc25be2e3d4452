import Orchestrator.FileSystem.Change
import Orchestrator.Runner

namespace Orchestrator

/-!
# Desks — a terminal and a transcript file

* `Terminal` — all that was written to the standard output, which is always taken.
* `FileSystem.Handle.medium` — what takes the bytes behind an open file: the device that was opened,
  or else the disk. A disk may be full, or fail.
* `Desk` — a terminal and the open transcript.
* `Desk.sink` — the log of a run at a desk. The bytes of the transcript that the medium takes land in
  the file system.
-/

/-- The standard output and all that was written to it. -/
abbrev Terminal : Type := Channel Unit

namespace Terminal

/-- Nothing was written yet. -/
def blank : Terminal := ⟨(), #[]⟩

/-- Write a line. -/
def print (line : String) (t : Terminal) : Terminal :=
  ⟨(), t.taken ++ Text.encode (line ++ "\n")⟩

/-- A terminal holds no file open. -/
def held (_ : Terminal) : List Nat := []

/-- A terminal with the device `device` as an outlet of a world. -/
def outlet {π : Type} (device : Outlet Unit) : Outlet (World π Terminal) :=
  device.kept.within (World.gearPart π Terminal)

end Terminal

/-! ### What takes the bytes -/

/-- A device as an outlet: it takes everything or nothing. -/
def Device.outlet {δ : Type} (d : Device) : Outlet δ where
  write disk bytes :=
    match d.full? with
    | none => (.took bytes.length, disk)
    | some cause => (.failed cause, disk)
  flush := pure ()
  patience _ := 0
  patience_lt _ _ h := by split at h <;> cases h

/-- What takes the bytes that are written to an open file. -/
def FileSystem.Handle.medium {δ : Type} (handle : FileSystem.Handle) (disk : Outlet δ) :
    Outlet δ :=
  match handle.device? with
  | none => disk
  | some d => d.outlet

/-! ### Terminal and transcript -/

/-- A terminal, the open transcript, and the state of the disk. -/
structure Desk (δ : Type) where
  terminal : Terminal
  transcript : FileSystem.Handle
  disk : δ

namespace Desk

variable {π δ : Type}

/-- The terminal as a part of a desk. -/
def terminalPart : Part (Desk δ) Terminal (FileSystem.Handle × δ) where
  split d := match d with | ⟨terminal, transcript, disk⟩ => (terminal, transcript, disk)
  join terminal rest := ⟨terminal, rest.1, rest.2⟩
  split_join _ _ := rfl
  join_split _ := rfl

/-- The terminal as an outlet. -/
def console : Outlet (World π (Desk δ)) :=
  (Outlet.boundless.kept.within terminalPart).within (World.gearPart π (Desk δ))

/-- The open transcript as an outlet. What its medium takes lands in the file; there is nothing to
be passed on later. -/
def transcriptOutlet (medium : Outlet δ) : Outlet (World π (Desk δ)) where
  write w bytes :=
    match w with
    | ⟨files, ⟨terminal, handle, disk⟩⟩ =>
      match medium.write disk bytes with
      | (.took n, disk) =>
        match handle.write (bytes.take n) files with
        | (handle, files) => (.took n, ⟨files, ⟨terminal, handle, disk⟩⟩)
      | (offer, disk) => (offer, ⟨files, ⟨terminal, handle, disk⟩⟩)
  flush := pure ()
  patience w := medium.patience w.gear.disk
  patience_lt w bytes h := by
    have key := medium.patience_lt w.gear.disk bytes
    rcases offered : medium.write w.gear.disk bytes with ⟨_ | _ | _, disk⟩
    · simp [offered] at h
    · simpa [offered] using key
    · simp [offered] at h

/-- The files that a desk holds open for writing. -/
def held (d : Desk δ) : List Nat := [d.transcript.serial]

/-- The log of a run at a desk whose transcript is written to `medium`. -/
def sink (medium : Outlet δ) : Sink (World π (Desk δ)) := ⟨console, transcriptOutlet medium⟩

/-- Open the transcript at a path, empty. -/
def openAt (start : Place) (path : Path) (terminal : Terminal) (disk : δ) (files : FileSystem π) :
    Except Fault (World π (Desk δ)) :=
  match files.createFile start path with
  | .ok (handle, files) => .ok ⟨files, ⟨terminal, handle, disk⟩⟩
  | .error cause => .error (.transcript cause)

end Desk

end Orchestrator
