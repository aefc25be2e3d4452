import Orchestrator.Shell.Expansion
import Orchestrator.Shell.Lookup

namespace Orchestrator.Shell

/-!
# The shell — builtins for signals and commands that run

* `setTraps` — what is done on a signal, or at the end.
* `sendSignal` — sending a signal; one to the shell itself ends it unless something else is done.
* `await` — the codes of commands that were not waited for.
-/

variable {π : Type}

/-! ### Traps -/

/-- The signal that a text names by its number, or by its name in any case. -/
def signal? (text : Bytes) : Option Nat :=
  if text ≠ [] ∧ text.all isDigit then
    let n := valueOf 10 text
    if n ≤ Child.lastSignal then some n else none
  else Child.signalOfName? ((Text.decode text).map Char.toUpper)

/-- The text is the number of a signal. -/
def isSignalNumber (text : Bytes) : Bool :=
  text.all isDigit && (signal? text).isSome

/-- Let something be done on signals, or nothing more. -/
def setTrapsOn (action? : Option Bytes) : List Bytes → Run π Nat
  | [] => pure 0
  | name :: rest => do
    match signal? name with
    | none => do
      writeError (Text.encode "trap: " ++ name ++ Text.encode ": bad trap")
      pure 1
    | some signal => do
      Run.modify fun s =>
        let others := s.traps.filter (·.1 != signal)
        { s with traps := (action?.map ((signal, ·))).toList ++ others }
      setTrapsOn action? rest

/-- Tell what is done on signals, or let something be done. -/
def setTraps (arguments : List Bytes) : Run π Nat := do
  let (_, rest) ← options "" arguments
  match rest with
  | [] => do
    let traps := (← Run.state).traps
    for signal in List.range (Child.lastSignal + 1) do
      match traps.lookup signal with
      | some action =>
        sayLine (Text.encode "trap -- " ++ quoted action
          ++ Text.encode (" " ++ Child.signalName signal))
      | none => pure ()
    pure 0
  | [only] => setTrapsOn none [only]
  | action :: names =>
    if isSignalNumber action then setTrapsOn none (action :: names)
    else setTrapsOn (if action = [dash] then none else some action) names

/-! ### Signals -/

/-- How signals are sent, in the words of the shell. -/
def sendingUsage : String :=
  "Usage: kill [-s sigspec | -signum | -sigspec] [pid | job]... or\nkill -l [exitstatus]"

/-- Send a signal to the shell itself. -/
def signalSelf (signal : Nat) : Run π Unit := do
  match (← Run.state).traps.lookup signal with
  | some action =>
    if action ≠ [] ∧ signal ≠ Child.killSignal then
      Run.modify fun s => { s with signals := s.signals ++ [signal] }
    else if signal = Child.killSignal then Run.stop (.killed signal)
  | none => if Child.isDeadly signal then Run.stop (.killed signal)

/-- Send a signal to a process; commands that were not waited for have ended. -/
def sendTo (signal : Nat) (target : Bytes) : Run π Nat := do
  let s ← Run.state
  let process ← countOf (if target.head? = some dash then target.drop 1 else target)
  if process = processNumber then do
    signalSelf signal
    pure 0
  else if processNumber < process ∧ process ≤ processNumber + s.backgrounds.length then pure 0
  else do
    complain (Text.encode "No such process\n")
    pure 1

/-- Tell the names of signals. -/
def tellSignals : List Bytes → Run π Nat
  | [] => do
    sayLine (Text.encode "0")
    for signal in List.range Child.lastSignal do
      sayLine (Text.encode (Child.signalName (signal + 1)))
    pure 0
  | word :: _ => do
    let code ← countOf word
    let signal := if 128 < code then code - 128 else code
    if 0 < signal ∧ signal ≤ Child.lastSignal then
      sayLine (Text.encode (Child.signalName signal))
      pure 0
    else giveUp (Text.encode "invalid signal number or exit status: " ++ word)

/-- Send a signal to each of some processes. -/
def sendToAll (signal : Nat) (targets : List Bytes) : Run π Nat := do
  if targets = [] then giveUp (Text.encode sendingUsage)
  let codes ← targets.mapM (sendTo signal)
  pure (codes.foldl max 0)

/-- Send a signal, or tell the names of signals. -/
def sendSignal (arguments : List Bytes) : Run π Nat := do
  match arguments with
  | [] => giveUp (Text.encode sendingUsage)
  | first :: targets =>
    if first.head? ≠ some dash then sendToAll Child.terminationSignal arguments
    else
      match if first = [dash] then none else signal? (first.drop 1) with
      | some signal => sendToAll signal targets
      | none => do
        let (found, rest) ← options "ls:" arguments
        match (found.filter (·.1 == 115)).getLast? with
        | some (_, name) =>
          match signal? name with
          | some signal =>
            if given 'l' found then giveUp (Text.encode sendingUsage)
            else sendToAll signal rest
          | none => giveUp (Text.encode "invalid signal number or name: " ++ name)
        | none =>
          if given 'l' found then tellSignals rest
          else sendToAll Child.terminationSignal rest

/-! ### Commands that were not waited for -/

/-- The code of a command that was not waited for, by its process or its place. -/
def codeOf (word : Bytes) : Run π Nat := do
  let s ← Run.state
  match word with
  | 37 :: place =>
    match (count? place).bind fun n => if n = 0 then none else s.backgrounds[n - 1]? with
    | some status => tellEnd status
    | none => giveUp (Text.encode "No such job: " ++ word)
  | _ =>
    match count? word with
    | some process =>
      let place := process - processNumber
      match if place = 0 then none else s.backgrounds[place - 1]? with
      | some status => tellEnd status
      | none => pure notFoundCode
    | none => giveUp (Text.encode "No such job: " ++ word)

/-- Tell the code of the last of some commands that were not waited for. -/
def await (arguments : List Bytes) : Run π Nat := do
  let (_, rest) ← options "" arguments
  let codes ← rest.mapM codeOf
  pure (codes.getLast?.getD 0)

end Orchestrator.Shell
