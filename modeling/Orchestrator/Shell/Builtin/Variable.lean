import Orchestrator.Shell.Expansion
import Orchestrator.Shell.Redirect

namespace Orchestrator.Shell

/-!
# The shell — builtins for variables and parameters

* `declareAll`, `localize`, `unsetAll` — what may be done with variables, and which are local.
* `setParameters`, `shift` — the options and parameters of the shell.
* `readLine` — reading a line into variables.
* `nextOption` — reading options among arguments one by one.
-/

variable {π : Type}

/-! ### Variables -/

/-- Names in ascending order. -/
def sorted {α : Type} (entries : List (Bytes × α)) : List (Bytes × α) :=
  entries.mergeSort fun a b => decide (a.1 ≤ b.1)

/-- A variable as a line that sets it. -/
def line (start name : Bytes) (value? : Option Bytes) : Bytes :=
  start ++ name ++ ((value?.map fun value => 61 :: quoted value).getD [])

/-- Tell the variables that pass a test. -/
def tellVariables (start : Bytes) (test : Variable → Bool) : Run π Unit := do
  let s ← Run.state
  for (name, v) in sorted s.table do
    if test v then sayLine (line start name v.value?)

/-- The name and the value in an argument. -/
def bindingOf (argument : Bytes) : Bytes × Option Bytes :=
  let name := argument.takeWhile (· != 61)
  (name, (argument.drop name.length).tail?)

/-- Let variables be found by programs or be read only, or tell which ones are. -/
def declareAll (isReadOnly : Bool) (arguments : List Bytes) : Run π Nat := do
  let (found, rest) ← options "p" arguments
  if found ≠ [] ∨ rest = [] then
    let start := Text.encode (if isReadOnly then "readonly " else "export ")
    tellVariables start fun v => if isReadOnly then v.isReadOnly else v.isExported
  else
    for argument in rest do
      let (name, value?) := bindingOf argument
      declare name value? (!isReadOnly) isReadOnly
  pure 0

/-- Let variables be local to the function that runs. A dash stands for the options. -/
def localize (arguments : List Bytes) : Run π Nat := do
  if (← Run.state).frames = [] then giveUp (Text.encode "not in a function")
  for argument in arguments do
    if argument = [dash] then
      Run.modify fun s =>
        match s.frames with
        | [] => s
        | frame :: rest =>
          { s with frames := { frame with options? := some s.options } :: rest }
    else
      let (name, value?) := bindingOf argument
      hide name
      declare name value? false false
  pure 0

/-- Take variables or functions away. -/
def unsetAll (arguments : List Bytes) : Run π Nat := do
  let (found, rest) ← options "vf" arguments
  let ofFunctions := (found.getLast?.map (·.1)) == some 102
  for name in rest do
    if ofFunctions then
      Run.modify fun s => { s with functions := s.functions.filter (·.1 != name) }
    else
      let name := name.takeWhile (· != 61)
      if isName name then unset name else giveUp (about name "bad variable name")
  pure 0

/-! ### Parameters -/

/-- Give the shell or a function other parameters. -/
def State.withParameters (s : State π) (parameters : List Bytes) : State π :=
  { s with parameters := parameters, progress := .start }

/-- Set options and parameters, or tell the variables. -/
def setParameters (arguments : List Bytes) : Run π Nat := do
  if arguments = [] then tellVariables [] (·.value?.isSome)
  else
    let (rest, isAll) ← setOptions arguments
    if rest ≠ [] ∨ isAll then Run.modify (·.withParameters rest)
  pure 0

/-- Leave the first parameters out. -/
def shift (arguments : List Bytes) : Run π Nat := do
  let count ← (arguments.head?.map countOf).getD (pure 1)
  let s ← Run.state
  if s.parameters.length < count then giveUp (Text.encode "can't shift that many")
  Run.modify (·.withParameters (s.parameters.drop count))
  pure 0

/-! ### Reading -/

/-- The line that a text begins with, how many bytes it takes, and whether it ends. Each byte is
told with whether a backslash protects it; a protected newline is left out. -/
def lineOf (isRaw : Bool) : Bytes → List (UInt8 × Bool) × Nat × Bool
  | [] => ([], 0, false)
  | b :: rest =>
    if b = Read.lineEnd then ([], 1, true)
    else if b = Read.backslash ∧ !isRaw then
      match rest with
      | [] => ([], 1, false)
      | c :: rest =>
        let (line, count, ends) := lineOf isRaw rest
        (if c = Read.lineEnd then line else (c, true) :: line, count + 2, ends)
    else
      let (line, count, ends) := lineOf isRaw rest
      ((b, false) :: line, count + 1, ends)

/-- A byte of a line that separates fields. -/
def isSeparator (s : Separators) (b : UInt8 × Bool) : Bool := !b.2 && s.bytes.contains b.1

/-- A byte of a line that separates fields however often it is repeated. -/
def isBlankSeparator (s : Separators) (b : UInt8 × Bool) : Bool := !b.2 && s.isBlank b.1

/-- The first field of a line, and what follows its separators. -/
def firstField (s : Separators) (line : List (UInt8 × Bool)) :
    List (UInt8 × Bool) × List (UInt8 × Bool) :=
  let field := line.takeWhile fun b => !isSeparator s b
  let rest := (line.drop field.length).dropWhile (isBlankSeparator s)
  match rest with
  | b :: more =>
    if isSeparator s b then (field, more.dropWhile (isBlankSeparator s)) else (field, rest)
  | [] => (field, [])

/-- The last field of a line: all of it but the blanks at its end. A single field has its separator
left out as well. -/
def lastField (s : Separators) (line : List (UInt8 × Bool)) : List (UInt8 × Bool) :=
  let (field, rest) := firstField s line
  if rest = [] then field
  else (line.reverse.dropWhile (isBlankSeparator s)).reverse

/-- Put the fields of a line into variables; the last one takes what is left. -/
def readInto (s : Separators) : List Bytes → List (UInt8 × Bool) → Run π Unit
  | [], _ => pure ()
  | name :: names, line => do
    let (field, rest) := if names = [] then (lastField s line, []) else firstField s line
    if isName name then set name (field.map (·.1)) else giveUp (about name "bad variable name")
    readInto s names rest

/-- Read a line into variables. -/
def readLine (arguments : List Bytes) : Run π Nat := do
  let (found, names) ← options "p:r" arguments
  if names = [] then giveUp (Text.encode "arg count")
  let s ← Run.state
  let (line, count, ends) := lineOf (given 'r' found) ((s.unread? inputDescriptor).getD [])
  Run.modify (·.consume inputDescriptor count)
  let line := (line.filter (·.1 != 0)).dropWhile (isBlankSeparator s.separators)
  readInto s.separators names line
  pure (if ends then 0 else 1)

/-! ### Options among arguments -/

/-- The variable with the word that an option takes. -/
def wordVariable : Bytes := Text.encode "OPTARG"

/-- Set variables about an option that was read. -/
def tellOption (target : Bytes) (letter : UInt8) (progress : Progress) : Run π Nat := do
  set nextVariable (decimal progress.next)
  if isName target then set target [letter]
  else giveUp (about target "bad variable name")
  Run.modify fun s => { s with progress := progress }
  pure 0

/-- An option that is not allowed, or that lacks its word. `sign` tells which of them, if nothing
is to be written. -/
def tellWrongOption (isQuiet : Bool) (text : Bytes) (letter sign : UInt8) (target : Bytes)
    (progress : Progress) : Run π Nat := do
  if isQuiet then
    set wordVariable [letter]
    tellOption target sign progress
  else
    writeError text
    unset wordVariable
    tellOption target 63 progress

/-- Read the next option of the arguments into a variable. -/
def nextOption (words : List Bytes) : Run π Nat := do
  match words with
  | allowed :: target :: others => do
    let s ← Run.state
    let arguments := if others = [] then s.parameters else others
    let progress := if arguments.length + 1 < s.progress.next then .start else s.progress
    let isQuiet := allowed.head? == some 58
    let left :=
      match progress.letters? with
      | some count => ((arguments[progress.next - 2]?).getD []).drop count
      | none => []
    let argument := (arguments[progress.next - 1]?).getD []
    let isNew := left = []
    let letters := if isNew then argument.drop 1 else left
    let next := if isNew then progress.next + 1 else progress.next
    if isNew ∧ argument = [dash, dash] then
      let _ ← tellOption target 63 ⟨next, none⟩
      pure 1
    else if isNew ∧ (argument.head? ≠ some dash ∨ letters = []) then
      let _ ← tellOption target 63 ⟨progress.next, none⟩
      pure 1
    else
      let letter := letters.headD 0
      let rest := letters.drop 1
      let count := ((arguments[next - 2]?).getD []).length - rest.length
      let after : Progress := ⟨next, some count⟩
      match takesWord? letter (if isQuiet then allowed.drop 1 else allowed) with
      | none =>
        let text := Text.encode "Illegal option -" ++ [letter]
        tellWrongOption isQuiet text letter 63 target after
      | some false => do
        set wordVariable []
        tellOption target letter after
      | some true =>
        match rest, arguments[next - 1]? with
        | [], none =>
          let text := Text.encode "No arg for -" ++ letter :: Text.encode " option"
          tellWrongOption isQuiet text letter 58 target after
        | [], some word => do
          set wordVariable word
          tellOption target letter ⟨next + 1, none⟩
        | _, _ => do
          set wordVariable rest
          tellOption target letter ⟨next, none⟩
  | _ => giveUp (Text.encode "Usage: getopts optstring var [arg...]")

end Orchestrator.Shell
