import Orchestrator.Shell.Evaluation

namespace Orchestrator.Shell

/-!
# The shell — from its call to its end

* `Source` — where the shell finds its commands.
* `beginning` — the state that a call leads to.
* `call` — what the shell does when it is called.
-/

variable {π : Type}

/-- Where the shell finds its commands: in an argument, in a file, or in what it reads. -/
inductive Source where
  | argument (text : Bytes)
  | file (path : Path)
  | input

/-- The letters that a word of options turns on or off; `c` asks for commands in an argument. -/
def callLetters (isOn : Bool) : Bytes → List Bytes → Run π (Bool × List Bytes)
  | [], rest => pure (false, rest)
  | 99 :: more, rest => do
    let (_, rest) ← callLetters isOn more rest
    pure (true, rest)
  | 108 :: more, rest => callLetters isOn more rest
  | 111 :: more, rest => do
    setNamed isOn rest.head?
    callLetters isOn more rest.tail
  | letter :: more, rest => do
    setLetter isOn letter
    callLetters isOn more rest

/-- The options of a call: whether commands are in an argument, and the words behind them. -/
def callOptions (takes : Bool) : (count : Nat) → List Bytes → Run π (Bool × List Bytes)
  | 0, words => pure (takes, words)
  | _, [] => pure (takes, [])
  | count + 1, word :: rest =>
    match word with
    | [45, 45] | [45] => pure (takes, rest)
    | 45 :: more => do
      let (found, rest) ← callLetters true more rest
      callOptions (takes || found) count rest
    | 43 :: more => do
      let (found, rest) ← callLetters false more rest
      callOptions (takes || found) count rest
    | _ => pure (takes, word :: rest)

/-- Read the words of a call: they set options, the name of the shell, and its parameters. -/
def readCall (words : List Bytes) : Run π Source := do
  let (takes, rest) ← callOptions false words.length words
  let named (source : Source) : List Bytes → Run π Source
    | [] => pure source
    | name :: parameters => do
      Run.modify fun s => { s with name := name, parameters := parameters }
      pure source
  match takes, rest with
  | true, [] => giveUp (Text.encode "-c requires an argument")
  | true, text :: rest => named (.argument text) rest
  | false, [] => do
    Run.modify (·.setOption true 115)
    pure .input
  | false, path :: rest =>
    if (← Run.state).hasOption 's' then do
      Run.modify fun s => { s with parameters := path :: rest }
      pure .input
    else named (.file ⟨path⟩) (path :: rest)

/-! ### The beginning -/

/-- Variables with a value of their own, whatever programs find; they are found by programs if they
were before. -/
def ownVariables : List (String × Bytes) :=
  [(separatorsVariable, Separators.standard.bytes), ("OPTIND", decimal 1), ("PPID", decimal 1)]

/-- Variables with a value of their own if they have none. -/
def usualVariables : List (String × Bytes) :=
  [("PATH", standardSearchPath), ("PS1", Text.encode "# "), ("PS2", Text.encode "> "),
    (Means.showingVariable, Text.encode "+ ")]

/-- The variables that the shell begins with. -/
def firstVariables (environment : Environment) : Variables :=
  let inherited := environment.filter fun (name, _) => isName name
  let isInherited (name : Bytes) : Bool := (inherited.lookup name).isSome
  let own := ownVariables.map fun (name, value) => (Text.encode name, value)
  let usual := (usualVariables.map fun (name, value) => (Text.encode name, value)).filter
    fun (name, _) => !isInherited name
  let others := inherited.filter fun (name, _) => (own.lookup name).isNone
  (own ++ usual ++ others).map fun (name, value) => (name, ⟨some value, isInherited name, false⟩)

/-- The state in which the words of a call are read. -/
def beginning (given : Child.Invocation) (files : FileSystem π) : State π where
  files := files
  directory := given.directory
  way := []
  table := firstVariables given.environment
  frames := []
  parameters := []
  progress := .start
  name := given.name
  functions := []
  aliases := []
  options := []
  status := 0
  outputStatus := 0
  written := []
  isMuted := false
  streams := #[.source given.input, .pipe .out, .pipe .err]
  descriptors := [(inputDescriptor, 0), (outputDescriptor, 1), (errorDescriptor, 2)]
  traps := []
  signals := []
  documents := []
  line := 0
  readTo := 0
  running? := none
  loops := 0
  calls := 0
  backgrounds := []
  verdict? := none
  mask := 0o22

/-- Find out which way led to the directory: the one that the environment tells, if it does lead
there. -/
def findWay : Run π Unit := do
  let s ← Run.state
  let told : Path := ⟨(s.getText? directoryVariable).getD []⟩
  let leadsHere :=
    match s.files.directory s.directory told with
    | .ok place => place == s.directory
    | .error _ => false
  let way ←
    if told.isAbsolute && leadsHere then pure told.bytes
    else if s.files.isThere s.directory then pure s.directory.location.toPath.bytes
    else do
      complain (Text.encode "getcwd() failed: No such file or directory")
      pure []
  Run.modify fun s => { s with way := way }.setExported directoryVariable way

/-! ### The whole -/

/-- Carry out the commands of a source. -/
def Means.runSource (m : Means π) : Source → Run π Unit
  | .argument text => do
    let _ ← m.runText .last false text
  | .file path => do
    let s ← Run.state
    match s.files.stat s.directory path with
    | .error cause =>
      giveUp (Text.encode "cannot open "
        ++ about path.bytes (openingTrouble "No such file" cause))
    | .ok (.file _ f) => do
      let _ ← m.runText .plain true (f.contents.filter (· != 0))
    | .ok _ => pure ()
  | .input => do
    let s ← Run.state
    let text := (s.unread? inputDescriptor).getD []
    Run.modify (·.consume inputDescriptor text.length)
    let _ ← m.runText .plain true (text.filter (· != 0))

/-- The signal that ends a program that goes too deep. -/
def depthSignal : Nat := 11

/-- What the shell does when it is called. Programs that it starts are run by a machine. -/
def call (machine : Child.Machine π) (given : Child.Invocation) (files : FileSystem π) :
    Child.Behaviour × FileSystem π :=
  let m := means machine depthLimit
  let whole : Run π Unit := do
    findWay
    let source ← readCall given.arguments
    m.runSource source
  let (outcome, after) := m.conclude whole (beginning given files)
  let status :=
    match outcome with
    | .ok status => status
    | .error (.killed signal) => .killed signal
    | .error _ => .killed depthSignal
  let unread :=
    match after.streams[0]? with
    | some (Stream.source rest) => rest
    | _ => []
  (⟨after.written.reverse, unread, status⟩, after.files)

end Orchestrator.Shell
