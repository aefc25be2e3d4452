import Orchestrator.Shell.Builtin.Control

namespace Orchestrator.Shell

/-!
# The shell — simple commands

* `Call` — what a simple command calls, behind any `command` in front of it.
* `Means.argumentsOf` — what the words of a command come to.
* `Means.callFunction` — a function with parameters.
* `Means.simple` — a simple command with its redirections and bindings.
-/

variable {π : Type}

namespace Means

variable (m : Means π)

/-- What a simple command calls. -/
structure Call where
  arguments : List Bytes
  callee : Callee
  /-- A mistake ends the shell. -/
  isSpecial : Bool
  /-- Bindings last as long as the call only. -/
  isTemporary : Bool
  searchPath : Bytes

/-- The words behind `command` and its options, and whether the standard search path is meant. There
are none if something else is asked for than a call. -/
def commandWords (isStandard : Bool) : List Bytes → Option (Bool × List Bytes)
  | [] => none
  | word :: rest =>
    match word with
    | [45, 45] => if rest = [] then none else some (isStandard, rest)
    | 45 :: letter :: more =>
      if (letter :: more).all (· == 112) then commandWords true rest else none
    | _ => some (isStandard, word :: rest)

/-- The call behind `command`; at most so many of them follow each other. -/
def plainCall (s : State π) : (count : Nat) → Call → Call
  | 0, call => call
  | count + 1, call =>
    match call.callee, call.arguments with
    | .builtin, name :: rest =>
      if name = Text.encode "command" then
        match commandWords false rest with
        | none => call
        | some (isStandard, words) =>
          let searchPath := if isStandard then standardSearchPath else call.searchPath
          let callee := s.callee true (words.headD [])
          plainCall s count { call with
            arguments := words
            callee := callee
            searchPath := searchPath }
      else call
    | _, _ => call

/-- What arguments call. -/
def callOf (s : State π) (arguments : List Bytes) : Call :=
  match arguments with
  | [] => ⟨[], .nothing, false, false, []⟩
  | name :: _ =>
    let callee := s.callee false name
    let isSpecial :=
      match callee with
      | .builtin => isAmong name specialBuiltins
      | _ => false
    plainCall s arguments.length ⟨arguments, callee, isSpecial, !isSpecial, s.searchPath⟩

/-- The arguments that are found first name a builtin that takes bindings. -/
def takesBindings (arguments : List Bytes) : Bool :=
  match arguments with
  | [] => false
  | name :: rest =>
    if name = Text.encode "command" then
      ((commandWords false rest).map fun (_, words) =>
        isAmong (words.headD []) bindingBuiltins).getD false
    else isAmong name bindingBuiltins

/-- The arguments that words come to, behind those before them. -/
def argumentsOf (before : List Bytes) : List Word → Run π (List Bytes)
  | [] => pure before
  | word :: rest => do
    let fields ←
      match if takesBindings before then word.binding? else none with
      | some (name, value) => do
        pure [name ++ 61 :: textOf (← expand m.capture .binding value)]
      | none => fieldsOf m.capture word
    argumentsOf (before ++ fields) rest

/-- Make a binding; one that does not last is put back later, and found by programs till then. -/
def bind (isTemporary isExported : Bool) (binding : Bytes × Word) : Run π Bytes := do
  let (name, word) := binding
  let value := textOf (← expand m.capture .binding word)
  if isTemporary then hide name
  set name value
  if isTemporary || isExported then declare name none true false
  pure (name ++ 61 :: value)

/-- The variable with the text in front of a command that is shown. -/
def showingVariable : String := "PS4"

/-- The text in front of a command that is shown. -/
def showingStart : Run π Bytes := do
  let text := ((← Run.state).getText? showingVariable).getD []
  match Read.pieces (readFuel text.length) .document (Cursor.ofText text) with
  | (.ok word, _) => textOfWord m.capture word
  | (.error _, _) => pure text

/-- Show a command on an error stream that was there before. -/
def trace (stream? : Option Nat) (words : List Bytes) : Run π Unit := do
  if (← Run.state).hasOption 'x' then
    let start ← m.showingStart
    withDescriptors [errorDescriptor] do
      Run.modify (·.lead errorDescriptor stream?)
      writeError (start ++ [32].intercalate words)

/-- Functions are inside one another at most so deep. -/
def callLimit : Nat := 1000

/-- Carry out a function with parameters. -/
def callFunction (standing : Standing) (body : Command) (parameters : List Bytes) :
    Run π Unit := fun s =>
  if callLimit ≤ s.calls then
    let text := "Maximum function recursion depth (" ++ toString callLimit ++ ") reached"
    giveUp (Text.encode text) s
  else
    let inside := { s.withParameters parameters with loops := 0, calls := s.calls + 1 }
    let (outcome, after) := m.perform standing body inside
    let after :=
      { after with
        parameters := s.parameters
        progress := s.progress
        loops := s.loops
        calls := s.calls }
    match outcome with
    | .error .goBack => (.ok (), after)
    | outcome => (outcome, after)

/-- Carry out a call. -/
def runCall (standing : Standing) (call : Call) : Run π Unit := do
  let name := call.arguments.headD []
  let rest := call.arguments.tail
  match call.callee with
  | .nothing => Run.modify fun s => { s with status := s.outputStatus }
  | .function body => m.callFunction standing.inside body rest
  | .builtin => m.runBuiltin standing call.isSpecial name rest
  | .program => do
    let s ← Run.state
    let searchPath := if call.isTemporary then s.searchPath else call.searchPath
    match ← launch m.machine searchPath name rest with
    | some status => endWith standing status
    | none => pure ()

/-- Carry out a simple command: its arguments are found first, then it is redirected, and its
bindings are made. -/
def simple (standing : Standing) (line : Nat) (bindings : List (Bytes × Word)) (words : List Word)
    (redirections : List Redirection) : Run π Unit := do
  Run.modify fun s => { s with line := line, outputStatus := 0 }
  let arguments ← m.argumentsOf [] words
  let s ← Run.state
  let call := callOf s arguments
  let isReplacing :=
    match call.callee, call.arguments with
    | .builtin, name :: _ => name == Text.encode "exec"
    | _, _ => false
  let stream? := s.descriptors.lookup errorDescriptor
  let action : Run π Unit := do
    let targets ← targetsOf m.capture redirections
    if ← redirect m.capture targets then
      let exports := isReplacing && 1 < call.arguments.length
      let shown ← bindings.mapM (m.bind call.isTemporary exports)
      m.trace stream? (shown ++ call.arguments)
      m.runCall standing call
    else
      Run.setStatus mistakeCode
      if call.isSpecial then Run.stop .mistake
  let action := if isReplacing then action else redirecting redirections action
  if call.isTemporary then withFrame action else action

end Means

end Orchestrator.Shell
