import Orchestrator.Boost.Request
import Orchestrator.Config
import Orchestrator.Context
import Orchestrator.Text.Digits

namespace Orchestrator

/-!
# Orders — what the user asks for

The words after the program's name say what is to be done. They are read from left to right, and the
first thing that ends the reading counts.

* `Order` — a task, with everything that it needs.
* `Order.read` — the order that words spell, or why nothing is done (`Halt`).
* `Token` — what a word looks like: an option, a row of single letters, or a plain word.
* `Setting` — an option that takes a value, and where the value comes from if it is not given.

A value stands behind an equals sign or is the next word. Only a plain word can be the next word
that a value is taken from, so a value that looks like an option has to stand behind an equals sign.
-/

/-- A task for the program. -/
inductive Order where
  /-- Build and test the project at a root, logging to a transcript. -/
  | integrate (root transcript : Path)
  /-- Build Boost, unless it is built. -/
  | setUpBoost (request : Boost.Request)
  deriving DecidableEq, Repr

namespace Order

/-! ### What can be wrong -/

/-- Words that spell no order. -/
inductive Misuse where
  | noTask
  | unknownTask (word : Bytes)
  | unknownOption (name : Bytes)
  | repeated (name : String)
  | needsValue (name : String)
  | takesNoValue (name : String)
  | badValue (name : String) (value : Bytes)
  | missing (name : String)
  | unexpected (word : Bytes)
  deriving DecidableEq, Repr

/-- Why nothing is done. -/
inductive Halt where
  | version
  | help
  | misuse (m : Misuse)
  deriving DecidableEq, Repr

/-! ### Words -/

/-- The dash that options begin with. -/
def dash : UInt8 := 45

/-- The sign between an option and its value. -/
abbrev equals : UInt8 := Environment.equals

/-- What a word looks like. -/
inductive Token where
  /-- Two dashes: no option follows. -/
  | noMoreOptions
  /-- Two dashes and a name, and the value behind an equals sign. -/
  | long (name : Bytes) (value? : Option Bytes)
  /-- One dash and letters, each an option of its own. -/
  | letters (list : Bytes)
  | plain (word : Bytes)
  deriving DecidableEq, Repr

/-- What a word looks like. A single dash is a plain word. -/
def Token.ofBytes : Bytes → Token
  | [45, 45] => .noMoreOptions
  | 45 :: 45 :: rest =>
    .long (rest.takeWhile (· != equals)) (rest.dropWhile (· != equals)).tail?
  | 45 :: letter :: rest => .letters (letter :: rest)
  | word => .plain word

/-! ### Values -/

/-- The value of a setting. -/
inductive Value where
  | path (p : Path)
  | text (s : String)
  | number (n : UInt32)
  deriving DecidableEq, Repr

/-- What values a setting takes. -/
inductive ValueKind where
  | path
  | text
  | number
  deriving DecidableEq, Repr

/-- The number of 32 bits that a word spells: digits, maybe behind a sign. Behind a minus there is
only zero. -/
def number? (word : Bytes) : Option UInt32 :=
  let bounded (limit : Nat) (digits : Bytes) :=
    (Text.digits? digits).bind fun n => if n < limit then some n.toUInt32 else none
  match word with
  | 43 :: digits => bounded UInt32.size digits
  | 45 :: digits => bounded 1 digits
  | digits => bounded UInt32.size digits

/-- Read the value of a setting. A path has at least one byte; a text may be empty. -/
def ValueKind.read? : ValueKind → Bytes → Option Value
  | .path, word => if word = [] then none else some (.path ⟨word⟩)
  | .text, word => (Text.decode? word).map .text
  | .number, word => (number? word).map .number

/-- An option that takes a value. -/
structure Setting where
  name : String
  kind : ValueKind
  deriving DecidableEq, Repr

/-- What was given so far. -/
structure Given where
  /-- The option that asks for more diagnostics was given. -/
  verbose : Bool
  values : List (String × Value)
  deriving Repr

namespace Given

/-- Nothing was given yet. -/
def nothing : Given := ⟨false, []⟩

/-- The value of a setting. -/
def value? (g : Given) (s : Setting) : Option Value := g.values.lookup s.name

/-- The option that asks for more diagnostics is given. It may be given once. -/
def giveVerbose (g : Given) : Except Halt Given :=
  if g.verbose then .error (.misuse (.repeated "verbose")) else .ok { g with verbose := true }

/-- The value of a setting is given. It may be given once. -/
def give (g : Given) (s : Setting) (word : Bytes) : Except Halt Given :=
  if (g.value? s).isSome then .error (.misuse (.repeated s.name))
  else
    match s.kind.read? word with
    | some value => .ok { g with values := (s.name, value) :: g.values }
    | none => .error (.misuse (.badValue s.name word))

end Given

/-! ### Options without a value -/

/-- Where an option stands: before the task is named, where the version can be asked for, or behind
it. -/
inductive Place where
  | beforeTask
  | inTask
  deriving DecidableEq, Repr

/-- Read a row of letters. -/
def readLetters (place : Place) : Given → Bytes → Except Halt Given
  | given, [] => .ok given
  | given, letter :: rest =>
    if letter = 118 then do readLetters place (← given.giveVerbose) rest
    else if letter = 104 then .error .help
    else if letter = 86 ∧ place = .beforeTask then .error .version
    else .error (.misuse (.unknownOption [dash, letter]))

/-- Read a named option that takes no value. -/
def readFlag (place : Place) (given : Given) (name : Bytes) (value? : Option Bytes) :
    Except Halt Given :=
  let answer (known : String) (outcome : Except Halt Given) :=
    if value?.isSome then .error (.misuse (.takesNoValue known)) else outcome
  if name = Text.encode "verbose" then answer "verbose" given.giveVerbose
  else if name = Text.encode "help" then answer "help" (.error .help)
  else if name = Text.encode "version" ∧ place = .beforeTask then
    answer "version" (.error .version)
  else .error (.misuse (.unknownOption name))

/-! ### The words behind a task -/

/-- Read the words behind a task that has the given settings. -/
def readSettings (settings : List Setting) : Given → List Bytes → Except Halt Given
  | given, [] => .ok given
  | given, word :: rest =>
    match Token.ofBytes word with
    | .plain word => .error (.misuse (.unexpected word))
    | .letters list => do readSettings settings (← readLetters .inTask given list) rest
    | .noMoreOptions =>
      match rest with
      | [] => .ok given
      | next :: _ => .error (.misuse (.unexpected next))
    | .long name value? =>
      match settings.find? (fun s => Text.encode s.name == name), value? with
      | none, _ => do readSettings settings (← readFlag .inTask given name value?) rest
      | some s, some value => do readSettings settings (← given.give s value) rest
      | some s, none =>
        if (given.value? s).isSome then .error (.misuse (.repeated s.name))
        else
          match rest with
          | [] => .error (.misuse (.needsValue s.name))
          | next :: rest =>
            match Token.ofBytes next with
            | .plain value => do readSettings settings (← given.give s value) rest
            | _ => .error (.misuse (.needsValue s.name))

/-- A path that is given, named by the environment, or the usual one. -/
def pathOf (given : Given) (s : Setting) (environment : Environment) (variable_ usual : String) :
    Except Halt Path :=
  match given.value? s with
  | some (.path p) => .ok p
  | _ =>
    match environment.value? (Text.encode variable_) with
    | none => .ok (.ofString usual)
    | some value => if value = [] then .error (.misuse (.badValue s.name [])) else .ok ⟨value⟩

/-- A value that has to be given. -/
def required {α : Type} (given : Given) (s : Setting) (pick : Value → Option α) :
    Except Halt α :=
  match (given.value? s).bind pick with
  | some a => .ok a
  | none => .error (.misuse (.missing s.name))

/-! ### Tasks -/

/-- Tasks by name. -/
inductive Task where
  | ci
  | setupBoost
  | help
  deriving DecidableEq, Repr

/-- The task that a word names. -/
def Task.ofBytes? (word : Bytes) : Option Task :=
  if word = Text.encode "ci" then some .ci
  else if word = Text.encode "setup-boost" then some .setupBoost
  else if word = Text.encode "help" then some .help
  else none

def rootSetting : Setting := ⟨"project-root", .path⟩
def logSetting : Setting := ⟨"log", .path⟩
def majorSetting : Setting := ⟨"major", .number⟩
def minorSetting : Setting := ⟨"minor", .number⟩
def patchSetting : Setting := ⟨"patch", .number⟩
def urlSetting : Setting := ⟨"url", .text⟩
def builtFileSetting : Setting := ⟨"built-file", .path⟩

/-- The variable that names the project root. -/
def rootVariable : String := "MCE_PROJECT_ROOT"

/-- The variable that names the transcript. -/
def logVariable : String := "MCE_CI_LOG"

/-- The order to build and test a project. -/
def readIntegrate (environment : Environment) (before : Given) (words : List Bytes) :
    Except Halt Order := do
  let given ← readSettings [rootSetting, logSetting] before words
  let root ← pathOf given rootSetting environment rootVariable "."
  let log ← pathOf given logSetting environment logVariable Config.standardTranscript
  pure (.integrate root log)

/-- The order to build Boost. -/
def readSetUpBoost (before : Given) (words : List Bytes) : Except Halt Order := do
  let settings := [majorSetting, minorSetting, patchSetting, urlSetting, builtFileSetting]
  let given ← readSettings settings before words
  let number | .number n => some n | _ => none
  let text | .text s => some s | _ => none
  let path | .path p => some p | _ => none
  let major ← required given majorSetting number
  let minor ← required given minorSetting number
  let patch ← required given patchSetting number
  let url ← required given urlSetting text
  let builtFile ← required given builtFileSetting path
  pure (.setUpBoost ⟨major, minor, patch, url, builtFile⟩)

/-- Help is asked for, on the whole or on one task. -/
def readHelp : List Bytes → Halt
  | [] => .help
  | [word] => if (Task.ofBytes? word).isSome then .help else .misuse (.unknownTask word)
  | _ :: word :: _ => .misuse (.unknownTask word)

/-- Read words, with what was given before them. What was given before the task is named may be
given once more behind it. -/
def readFrom (environment : Environment) : Given → List Bytes → Except Halt Order
  | _, [] => .error (.misuse .noTask)
  | given, word :: rest =>
    match Token.ofBytes word with
    | .letters list => do readFrom environment (← readLetters .beforeTask given list) rest
    | .long name value? => do
      readFrom environment (← readFlag .beforeTask given name value?) rest
    | .noMoreOptions => .error (.misuse (.unexpected word))
    | .plain word =>
      match Task.ofBytes? word with
      | some .ci => readIntegrate environment { given with verbose := false } rest
      | some .setupBoost => readSetUpBoost { given with verbose := false } rest
      | some .help => .error (readHelp rest)
      | none => .error (.misuse (.unknownTask word))

/-- The order that words spell. -/
def read (environment : Environment) (words : List Bytes) : Except Halt Order :=
  readFrom environment .nothing words

end Order

end Orchestrator
