import Orchestrator.Shell.Number
import Orchestrator.Shell.Output

namespace Orchestrator.Shell

/-!
# The shell — its variables

* `State.get?`, `set`, `declare`, `unset` — the values of variables, and what may be done with them.
* `hide`, `withFrame` — variables that are put back.
* `State.environment` — what programs find in their environment.
-/

variable {π : Type}

open Run

/-! ### Values -/

/-- The value of a variable. -/
def State.get? (s : State π) (name : Bytes) : Option Bytes :=
  (s.table.lookup name).bind (·.value?)

/-- The value of a variable with a name in text. -/
def State.getText? (s : State π) (name : String) : Option Bytes := s.get? (Text.encode name)

/-- The option with a letter is on. -/
def State.hasOption (s : State π) (letter : Char) : Bool :=
  s.options.contains letter.toNat.toUInt8

/-- Put an entry in place of the entry of its name. -/
def Variables.put (table : Variables) (name : Bytes) (v : Variable) : Variables :=
  (name, v) :: table.filter fun entry => entry.1 != name

/-- The variable of a name; it is new if there was none. -/
def State.known (s : State π) (name : Bytes) : Variable :=
  (s.table.lookup name).getD ⟨none, false, false⟩

/-- Set a variable without asking whether that is allowed. -/
def State.put (s : State π) (name : Bytes) (v : Variable) : State π :=
  { s with table := Variables.put s.table name v }

/-- The variable with the number of the argument that is read next for options. -/
def nextVariable : Bytes := Text.encode "OPTIND"

/-- Set a variable; some may only be read. -/
def set (name value : Bytes) : Run π Unit := do
  let s ← state
  let v := s.known name
  if v.isReadOnly then giveUp (about name "is read only")
  else
    let isExported := v.isExported || s.hasOption 'a'
    let progress :=
      if name = nextVariable then ⟨max 1 ((count? value).getD 1), none⟩ else s.progress
    modify fun s =>
      { s.put name { v with value? := some value, isExported := isExported } with
        progress := progress }

/-- Variables that stay known when they are taken away. -/
def lastingNames : List String := ["IFS", "OPTIND", "PATH", "PS1", "PS2", "PS4"]

/-- Take a variable away. -/
def unset (name : Bytes) : Run π Unit := do
  let s ← state
  let v := s.known name
  let isLasting := lastingNames.contains (Text.decode name)
    || s.frames.any fun frame => (frame.before.lookup name).isSome
  if v.isReadOnly then giveUp (about name "is read only")
  else if isLasting then modify (·.put name { v with value? := none })
  else modify fun s => { s with table := s.table.filter fun entry => entry.1 != name }

/-- Set a variable that programs are to find, whatever is said about it. -/
def State.setExported (s : State π) (name : String) (value : Bytes) : State π :=
  s.put (Text.encode name) { s.known (Text.encode name) with
    value? := some value
    isExported := true }

/-- Set a variable, or only what may be done with it, or both. -/
def declare (name : Bytes) (value? : Option Bytes) (isExported isReadOnly : Bool) :
    Run π Unit := do
  let s ← state
  let v := s.known name
  let marked (v : Variable) : Variable :=
    { v with
      isExported := v.isExported || isExported
      isReadOnly := v.isReadOnly || isReadOnly }
  if !isName name then giveUp (about name "bad variable name")
  else
    match value? with
    | none => modify (·.put name (marked v))
    | some value => do
      set name value
      modify fun s => s.put name (marked (s.known name))

/-- Let a variable be put back when the innermost commands end that keep variables to themselves. -/
def hide (name : Bytes) : Run π Unit := modify fun s =>
  match s.frames with
  | [] => s
  | frame :: rest =>
    let entry := (name, s.table.lookup name)
    { s with frames := { frame with before := entry :: frame.before } :: rest }

/-- Put back what the innermost frame keeps. -/
def State.leaveFrame (s : State π) : State π :=
  match s.frames with
  | [] => s
  | frame :: rest =>
    let table := frame.before.foldl (fun table (name, before?) =>
      match before? with
      | some before => Variables.put table name before
      | none => table.filter fun entry => entry.1 != name) s.table
    { s with
      table := table
      frames := rest
      options := frame.options?.getD s.options }

/-- Do an action that may keep variables to itself. -/
def withFrame {α : Type} (action : Run π α) : Run π α := fun s =>
  undoing action State.leaveFrame { s with frames := ⟨[], none⟩ :: s.frames }

/-- What programs find in their environment. -/
def State.environment (s : State π) : Environment :=
  .ofBindings (s.table.filterMap fun (name, v) =>
    if v.isExported then v.value?.map fun value => (name, value) else none)

end Orchestrator.Shell
