import Orchestrator.Shell.Lookup
import Orchestrator.Shell.Reader

namespace Orchestrator.Shell

/-!
# The shell — what commands are carried out with

* `Standing` — what a command is part of.
* `Means` — a machine for programs, and a way to carry out the commands inside others.
* `Means.runText` — the commands of a text.
* `Means.subshell`, `Means.capture` — commands that leave no trace in the state but what they wrote.
* `Means.heedAll` — what is to be done about signals.

A command is tested if its failure is no reason to end, even if failures are.
-/

variable {π : Type}

/-- What a command is part of. -/
structure Standing where
  /-- Its failure is no reason to end, even if failures are. -/
  isTested : Bool
  /-- It is the last thing that its shell does, so that a program can take its place. -/
  isLast : Bool
  deriving DecidableEq, Repr

namespace Standing

/-- A command with others behind it. -/
def plain : Standing := ⟨false, false⟩

/-- A command that decides what is done next. -/
def tested : Standing := ⟨true, false⟩

/-- The last command of a shell. -/
def last : Standing := ⟨false, true⟩

/-- The same, with more to be done behind it. -/
def inside (standing : Standing) : Standing := { standing with isLast := false }

end Standing

/-- What commands are carried out with. -/
structure Means (π : Type) where
  machine : Child.Machine π
  perform : Standing → Command → Run π Unit

namespace Means

variable (m : Means π)

/-! ### Texts -/

/-- Carry out the commands from a cursor on; tells whether there was one. With `isFile`, what is
read may have to be shown. -/
def runFrom (standing : Standing) (isFile : Bool) :
    (count : Nat) → Cursor → (any : Bool) → Run π Bool
  | 0, _, any => pure any
  | count + 1, cursor, any => fun s =>
    let cursor := { cursor with documents := s.documents, aliases := s.aliases }
    let found := readCommand (readFuel cursor.rest.length) cursor
    let after := found.2
    let shown := cursor.rest.take (cursor.rest.length - after.rest.length)
    let echoText : Run π Unit := do
      if isFile && s.hasOption 'v' then let _ ← write errorDescriptor shown
    match found.1 with
    | .error trouble =>
      (do
        echoText
        let s ← Run.state
        writeError (complaintAt s trouble.line (Text.encode ("Syntax error: " ++ trouble.text)))
        Run.setStatus mistakeCode
        Run.stop .mistake) s
    | .ok none => (do echoText; pure any) s
    | .ok (some command?) =>
      match (do
        echoText
        Run.modify fun s => { s with documents := after.documents, readTo := after.line }
        match command? with
        | some command =>
          let isLast := standing.isLast && after.isAtEnd
          m.perform { standing with isLast := isLast } command
        | none => pure ()) s with
      | (.error stop, s) => (.error stop, s)
      | (.ok (), s) => runFrom standing isFile count after (any || command?.isSome) s

/-- Carry out the commands of a text; tells whether there was one. -/
def runText (standing : Standing) (isFile : Bool) (text : Bytes) : Run π Bool :=
  fun s =>
    Run.undoing (m.runFrom standing isFile (text.length + 1) (Cursor.ofText text) false)
      (fun after => { after with readTo := s.readTo }) s

/-- The code of the last command of a text; zero if it has none. -/
def codeOfText (standing : Standing) (isFile : Bool) (text : Bytes) : Run π Nat := do
  let any ← m.runText standing isFile text
  let s ← Run.state
  pure (if any then s.status else 0)

/-! ### Ends -/

/-- What the end of the shell comes to when nothing more is done. -/
def ended (s : State π) : Child.Status := .exited (s.status % 256)

/-- Do what is to be done at the end. -/
def atEnd : Run π Child.Status := fun s =>
  match s.traps.lookup 0 with
  | none => (.ok (ended s), s)
  | some text =>
    let inside := { s with traps := s.traps.filter (·.1 != 0), verdict? := some s.status }
    match m.runText .plain false text inside with
    | (.error (.killed signal), after) => (.error (.killed signal), after)
    | (.error .spent, after) => (.error .spent, after)
    | (.error (.replaced status), after) => (.ok status, after)
    | (.error .exit, after) | (.error .mistake, after) => (.ok (ended after), after)
    | (_, after) => (.ok (ended s), after)

/-- Do an action and all that is to be done at the end; tells how the shell ends. -/
def conclude (action : Run π Unit) : Run π Child.Status := fun s =>
  match action s with
  | (.error (.killed signal), after) => (.error (.killed signal), after)
  | (.error .spent, after) => (.error .spent, after)
  | (.error (.replaced status), after) => (.ok status, after)
  | (_, after) => m.atEnd after

/-- Do an action in a shell of its own, which leaves nothing but files and what it wrote. -/
def subshell (action : Run π Unit) : Run π Child.Status := fun s =>
  let inside :=
    { s with
      traps := s.traps.filter (·.2 = [])
      signals := []
      verdict? := none
      backgrounds := [] }
  let (outcome, after) := m.conclude action inside
  (outcome, { s with files := after.files, streams := after.streams, written := after.written })

/-- What commands write to the output. -/
def capture : Option Command → Run π Bytes
  | none => pure []
  | some command => do
    let index := (← Run.state).streams.size
    let status ← m.subshell do
      Run.modify (·.attach outputDescriptor (.sink []))
      m.perform .last command
    let code ← tellEnd status
    Run.modify fun s => { s with outputStatus := code }
    pure (((← Run.state).taken index).filter (· != 0))

/-- The shell is not to do anything on a signal or at its end. -/
def hasNoTraps (s : State π) : Bool := s.traps.all (·.2 = [])

/-- A program or a shell of its own ended. If it was the last thing to do, it took the place of the
shell. -/
def endWith (standing : Standing) (status : Child.Status) : Run π Unit := do
  if standing.isLast && hasNoTraps (← Run.state) then Run.stop (.replaced status)
  else Run.setStatus (← tellEnd status)

/-! ### Signals -/

/-- Do what is to be done about a signal. The code of the last command stays. -/
def heed (signal : Nat) : Run π Unit := do
  let s ← Run.state
  match s.traps.lookup signal with
  | none => pure ()
  | some action => do
    Run.modify fun s => { s with verdict? := some s.status }
    let _ ← m.runText .plain false action
    Run.modify fun after => { after with status := s.status, verdict? := s.verdict? }

/-- Do what is to be done about all signals that came. -/
def heedAll : Run π Unit := do
  let signals := (← Run.state).signals
  if signals ≠ [] then
    Run.modify fun s => { s with signals := [] }
    for signal in signals do m.heed signal

end Means

end Orchestrator.Shell
