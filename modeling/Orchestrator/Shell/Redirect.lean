import Orchestrator.Shell.Expansion

namespace Orchestrator.Shell

/-!
# The shell — redirections

* `Target` — a redirection with its words expanded.
* `redirect` — let descriptors lead where redirections say. The first that is not possible is
  complained about, and those behind it are left out.
* `State.unread?`, `State.consume` — what there is to read from a descriptor.
-/

variable {π : Type}

/-! ### Reading -/

/-- What is still to be read from a stream, if it can be read at all. -/
def Stream.unread? (files : FileSystem π) : Stream → Option Bytes
  | .pipe _ | .sink _ => none
  | .source rest => some rest
  | .file handle opening =>
    if opening = .input ∨ opening = .both then
      some (((handle.file? files).map fun f => f.contents.drop handle.offset).getD [])
    else none
  | .nothing => some []

/-- The stream when so many bytes of it were read. -/
def Stream.consume (count : Nat) : Stream → Stream
  | .source rest => .source (rest.drop count)
  | .file handle opening => .file { handle with offset := handle.offset + count } opening
  | other => other

/-- What is still to be read from a descriptor, if it can be read at all. -/
def State.unread? (s : State π) (descriptor : Nat) : Option Bytes :=
  (s.stream? descriptor).bind fun (_, stream) => stream.unread? s.files

/-- The state when so many bytes of a descriptor were read. -/
def State.consume (s : State π) (descriptor count : Nat) : State π :=
  match s.stream? descriptor with
  | none => s
  | some (index, stream) => { s with streams := s.streams.set! index (stream.consume count) }

/-! ### Targets -/

/-- A redirection with the words that name its target expanded. -/
inductive Target where
  | file (descriptor : Nat) (opening : Opening) (path : Bytes)
  /-- To where another descriptor leads. -/
  | duplicate (descriptor source : Nat)
  | closing (descriptor : Nat)
  /-- A text, which is expanded when it is its turn. -/
  | document (descriptor : Nat) (body : Word)

/-- The descriptor of a redirection. -/
def Redirection.descriptor : Redirection → Nat
  | .file descriptor _ _ | .duplicate descriptor _ | .document descriptor _ => descriptor

/-- Complain about a descriptor that is none. -/
def noDescriptor {α : Type} : Run π α := do
  let s ← Run.state
  writeError (complaintAt s s.readTo (Text.encode "Syntax error: Bad fd number"))
  Run.setStatus mistakeCode
  Run.stop .mistake

/-- A redirection with its words expanded. -/
def Redirection.target (capture : Option Command → Run π Bytes) : Redirection → Run π Target
  | .file descriptor opening path => do pure (.file descriptor opening (← textOfWord capture path))
  | .duplicate descriptor source => do
    match ← textOfWord capture source with
    | [45] => pure (.closing descriptor)
    | [b] =>
      if isDigit b then pure (.duplicate descriptor (b.toNat - 48))
      else noDescriptor
    | _ => noDescriptor
  | .document descriptor number => do
    let body := ((← Run.state).documents.lookup number).getD []
    pure (.document descriptor body)

/-! ### Opening -/

/-- Why a file cannot be opened, with other words if it or its directory is missing. -/
def openingTrouble (missing : String) : Cause → String
  | .noEntry | .notADirectory => missing
  | .number n => Cause.meaning n
  | .words text => text

/-- The descriptors that paths lead to as they are. -/
def devices : List (String × Nat) :=
  [("/dev/stdin", inputDescriptor), ("/dev/stdout", outputDescriptor),
    ("/dev/stderr", errorDescriptor)]
    ++ (List.range 10).map fun n => ("/dev/fd/" ++ toString n, n)

/-- The device that takes everything and gives nothing. -/
def nullDevice : String := "/dev/null"

/-- Let a descriptor lead to where another one leads; tells whether that was possible. -/
def State.duplicate? (s : State π) (descriptor source : Nat) : Option (State π) :=
  (s.descriptors.lookup source).map fun index => s.lead descriptor (some index)

/-- Open a file for a descriptor. -/
def State.open? (s : State π) (descriptor : Nat) (opening : Opening) (path : Path) :
    Except Cause (State π) :=
  if path.display = nullDevice then .ok (s.attach descriptor .nothing)
  else
    match devices.lookup path.display with
    | some source => ((s.duplicate? descriptor source).map Except.ok).getD (.error .noEntry)
    | none =>
      match opening with
      | .input =>
        match s.files.stat s.directory path with
        | .error cause => .error cause
        | .ok (.file at_ f) => .ok (s.attach descriptor (.file ⟨at_, f.serial, 0, none⟩ .input))
        | .ok _ => .ok (s.attach descriptor (.source []))
      | _ =>
        let keeps := opening = .append ∨ opening = .both
        if opening = .output ∧ s.hasOption 'C' ∧ s.files.isFile s.directory path then .error .taken
        else
          (if keeps then s.files.openFile s.directory path
            else s.files.createFile s.directory path).map fun (handle, files) =>
            ({ s with files := files }).attach descriptor (.file handle opening)

/-- Let a descriptor lead to a target. -/
def redirectTo (capture : Option Command → Run π Bytes) : Target → Run π Unit
  | .file descriptor opening path => do
    let (action, missing) :=
      match opening with
      | .input => ("open ", "No such file")
      | _ => ("create ", "Directory nonexistent")
    match (← Run.state).open? descriptor opening ⟨path⟩ with
    | .ok after => Run.modify fun _ => after
    | .error cause =>
      giveUp (Text.encode ("cannot " ++ action) ++ about path (openingTrouble missing cause))
  | .duplicate descriptor source => do
    match (← Run.state).duplicate? descriptor source with
    | some after => Run.modify fun _ => after
    | none => giveUp (about (decimal source) "Bad file descriptor")
  | .closing descriptor => Run.modify (·.lead descriptor none)
  | .document descriptor body => do
    let text ← textOfWord capture body
    Run.modify (·.attach descriptor (.source text))

/-- Do an action that begins with redirections; the descriptors are as before behind it. -/
def redirecting {α : Type} (redirections : List Redirection) (action : Run π α) : Run π α :=
  withDescriptors (redirections.map Redirection.descriptor) action

/-- Redirections with the words that name their targets expanded. -/
def targetsOf (capture : Option Command → Run π Bytes) (redirections : List Redirection) :
    Run π (List Target) :=
  redirections.mapM (Redirection.target capture)

/-- Let descriptors lead to targets; tells whether that was possible. -/
def redirect (capture : Option Command → Run π Bytes) (targets : List Target) : Run π Bool :=
  fun s =>
    match (targets.forM (redirectTo capture) : Run π Unit) s with
    | (.ok (), after) => (.ok true, after)
    | (.error .mistake, after) => (.ok false, after)
    | (.error stop, after) => (.error stop, after)

end Orchestrator.Shell
