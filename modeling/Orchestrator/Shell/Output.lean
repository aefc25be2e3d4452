import Orchestrator.Shell.State

namespace Orchestrator.Shell

/-!
# The shell — output

* `write`, `say` — writing to a descriptor, and to the output.
* `complain`, `giveUp` — telling what is wrong, and going on or not.
* `State.attach`, `withDescriptors` — where descriptors lead.
-/

variable {π : Type}

open Run

/-! ### Writing -/

/-- The stream that a descriptor leads to. -/
def State.stream? (s : State π) (descriptor : Nat) : Option (Nat × Stream) :=
  (s.descriptors.lookup descriptor).bind fun index =>
    (s.streams[index]?).map fun stream => (index, stream)

/-- Write to a stream of the shell's own; not to one that is open for reading only, nor to a device
that takes nothing. -/
def Stream.write (stream : Stream) (bytes : Bytes) (files : FileSystem π) :
    Option (Stream × FileSystem π) :=
  match stream with
  | .pipe _ => none
  | .sink taken => some (.sink (bytes :: taken), files)
  | .source _ => none
  | .file _ .input => none
  | .file ⟨_, _, _, some ⟨_, _, some _⟩⟩ _ => none
  | .file handle opening =>
    let handle :=
      match opening, handle.file? files with
      | .append, some f => { handle with offset := f.contents.length }
      | _, _ => handle
    let (handle, files) := handle.write bytes files
    some (.file handle opening, files)
  | .nothing => some (.nothing, files)

/-- Write to a descriptor; tells whether that was possible. -/
def write (descriptor : Nat) (bytes : Bytes) : Run π Bool := fun s =>
  if bytes = [] then (.ok true, s)
  else
    match s.stream? descriptor with
    | none => (.ok false, s)
    | some (_, .pipe target) => (.ok true, { s with written := (target, bytes) :: s.written })
    | some (index, stream) =>
      match stream.write bytes s.files with
      | none => (.ok false, s)
      | some (stream, files) =>
        (.ok true, { s with streams := s.streams.set! index stream, files := files })

/-- Write to the output, and keep in mind if that is not possible. -/
def say (bytes : Bytes) : Run π Unit := do
  let done ← write outputDescriptor bytes
  if !done then modify fun s => { s with isMuted := true }

/-- Write a text and end the line on the output. -/
def sayLine (text : Bytes) : Run π Unit := say (text ++ [Read.lineEnd])

/-- Write a text and end the line on the error stream. -/
def writeError (line : Bytes) : Run π Unit := do
  let _ ← write errorDescriptor (line ++ [Read.lineEnd])

/-- A complaint about a line. -/
def complaintAt (s : State π) (line : Nat) (text : Bytes) : Bytes :=
  let running := (s.running?.map (· ++ Text.encode ": ")).getD []
  s.name ++ Text.encode (": " ++ toString line ++ ": ") ++ running ++ text

/-- Complain, and go on. -/
def complain (text : Bytes) : Run π Unit := do
  let s ← state
  writeError (complaintAt s s.line text)

/-- The code that a mistake ends with. -/
def mistakeCode : Nat := 2

/-- Complain, and carry out nothing more. -/
def giveUp {α : Type} (text : Bytes) : Run π α := do
  complain text
  setStatus mistakeCode
  stop .mistake

/-- What a complaint says of a text. -/
def about (subject : Bytes) (text : String) : Bytes := subject ++ Text.encode (": " ++ text)

/-! ### Descriptors -/

/-- Let a descriptor lead to a stream with an index, or nowhere. -/
def State.lead (s : State π) (descriptor : Nat) (index? : Option Nat) : State π :=
  { s with
    descriptors :=
      (index?.map ((descriptor, ·))).toList ++ s.descriptors.filter (·.1 != descriptor) }

/-- Let a descriptor lead to a new stream. -/
def State.attach (s : State π) (descriptor : Nat) (stream : Stream) : State π :=
  { s with streams := s.streams.push stream }.lead descriptor (some s.streams.size)

/-- Do an action that changes some descriptors; these are as before behind it. -/
def withDescriptors {α : Type} (changed : List Nat) (action : Run π α) : Run π α := fun s =>
  undoing action (fun after =>
    changed.foldl (fun after d => after.lead d (s.descriptors.lookup d)) after) s

/-- What a stream took. -/
def State.taken (s : State π) (index : Nat) : Bytes :=
  match s.streams[index]? with
  | some (.sink taken) => taken.reverse.flatten
  | _ => []

/-- The files that the shell holds open for writing. -/
def State.held (s : State π) : List Nat :=
  s.descriptors.filterMap fun (_, index) =>
    match s.streams[index]? with
    | some (.file handle opening) => if opening = .input then none else some handle.serial
    | _ => none

end Orchestrator.Shell
