import Orchestrator.Shell.Condition
import Orchestrator.Shell.Format
import Orchestrator.Shell.Lookup

namespace Orchestrator.Shell

/-!
# The shell — builtins that tell something

* `echo`, `printFormatted`, `examine` — output, and conditions.
* `describe` — what a name stands for.
* `tellAliases`, `tellMask`, `tellTimes` — what the shell knows.
-/

variable {π : Type}

/-! ### Output and conditions -/

/-- Write arguments. -/
def echo (arguments : List Bytes) : Run π Nat := do
  match arguments with
  | [45, 110] :: rest => say (echoed false rest)
  | _ => say (echoed true arguments)
  pure 0

/-- Write arguments in a format. -/
def printFormatted (arguments : List Bytes) : Run π Nat := do
  let (_, rest) ← options "" arguments
  match rest with
  | [] => giveUp (Text.encode "usage: printf format [arg ...]")
  | format :: values => do
    let (finish, printing) := printed format values
    for text in printing.complaints do complain text
    match finish with
    | .mistake text => do
      complain text
      say printing.out.toList
      Run.setStatus mistakeCode
      Run.stop .mistake
    | _ => do
      say printing.out.toList
      pure (if printing.isFailure then 1 else 0)

/-- Tell by the code whether a condition holds. In brackets it has to end with one. -/
def examine (inBrackets : Bool) (arguments : List Bytes) : Run π Nat := do
  let closes := (arguments.getLast?.map (·.head? == some 93)).getD false
  if inBrackets && !closes then giveUp (Text.encode "missing ]")
  let words := if inBrackets then arguments.dropLast else arguments
  match Condition.holds (← Run.state) words with
  | .ok holds => pure (if holds then 0 else 1)
  | .error text => giveUp text

/-! ### Names -/

/-- An alias as it is told. -/
def aliasLine (name value : Bytes) : Bytes := name ++ 61 :: quoted value

/-- What a name stands for, in a word or in a sentence; none if it stands for nothing. -/
def State.description? (s : State π) (isLong : Bool) (searchPath name : Bytes) : Option Bytes :=
  let told (text : String) : Option Bytes :=
    some (if isLong then name ++ Text.encode text else name)
  if (Keyword.ofBytes? name).isSome then told " is a shell keyword"
  else
    match s.aliases.lookup name with
    | some value =>
      if isLong then some (name ++ Text.encode " is an alias for " ++ value)
      else some (Text.encode "alias " ++ aliasLine name value)
    | none =>
      match s.callee false name with
      | .function _ => told " is a shell function"
      | .builtin =>
        told (if isAmong name specialBuiltins then " is a special shell builtin"
          else " is a shell builtin")
      | _ =>
        let path? :=
          if name.contains Path.slash then
            match s.files.stat s.directory ⟨name⟩ with
            | .ok _ => some name
            | .error _ => none
          else
            match s.programPaths searchPath name with
            | .ok (path :: _) => some path.bytes
            | _ => none
        path?.map fun path => if isLong then name ++ Text.encode " is " ++ path else path

/-- Tell what a name stands for. -/
def describe (isLong : Bool) (searchPath name : Bytes) : Run π Nat := do
  match (← Run.state).description? isLong searchPath name with
  | some text => do
    sayLine text
    pure 0
  | none => do
    if isLong then sayLine (about name "not found")
    pure notFoundCode

/-- Tell what names stand for. -/
def describeAll (names : List Bytes) : Run π Nat := do
  let s ← Run.state
  let codes ← names.mapM (describe true s.searchPath)
  pure (codes.foldl (· ||| ·) 0)

/-- Set aliases, or tell them. -/
def tellAliases (arguments : List Bytes) : Run π Nat := do
  if arguments = [] then
    for (name, value) in (← Run.state).aliases.reverse do sayLine (aliasLine name value)
    pure 0
  else
    let codes ← arguments.mapM fun argument => do
      let s ← Run.state
      let name := argument.take 1 ++ (argument.drop 1).takeWhile (· != 61)
      match (argument.drop name.length).tail?, s.aliases.lookup name with
      | some value, _ => do
        Run.modify fun s =>
          { s with aliases := (name, value) :: s.aliases.filter (·.1 != name) }
        pure 0
      | none, some value => do
        sayLine (aliasLine name value)
        pure 0
      | none, none => do
        writeError (Text.encode "alias: " ++ name ++ Text.encode " not found")
        pure 1
    pure (codes.foldl max 0)

/-- Take aliases away. -/
def forgetAliases (arguments : List Bytes) : Run π Nat := do
  let (found, names) ← options "a" arguments
  if found ≠ [] then
    Run.modify fun s => { s with aliases := [] }
    pure 0
  else
    let codes ← names.mapM fun name => do
      if ((← Run.state).aliases.lookup name).isSome then
        Run.modify fun s => { s with aliases := s.aliases.filter (·.1 != name) }
        pure 0
      else do
        writeError (Text.encode "unalias: " ++ name ++ Text.encode " not found")
        pure 1
    pure (codes.foldl max 0)

/-- Look for programs, so that they are known. -/
def remember (arguments : List Bytes) : Run π Nat := do
  let (_, names) ← options "r" arguments
  let codes ← names.mapM fun name => do
    let s ← Run.state
    match s.callee false name, s.programPaths s.searchPath name with
    | .program, .error cause => do
      complain (about name (programTrouble cause))
      pure 1
    | _, _ => pure 0
  pure (codes.foldl max 0)

/-! ### Permissions and times -/

/-- The permissions of new files. -/
def allPermissions : Nat := 0o777

/-- The permissions in three bits. -/
def permissions (bits : Nat) : String :=
  String.join ([(4, "r"), (2, "w"), (1, "x")].map fun (bit, text) =>
    if bits &&& bit = 0 then "" else text)

/-- The bits that letters of permissions stand for. -/
def permissionBits (text : Bytes) : Nat :=
  text.foldl (fun bits b =>
    bits ||| if b = 114 then 4 else if b = 119 then 2 else if b = 120 then 1 else 0) 0

/-- The permissions that a clause leaves of others. -/
def applyClause (permissions : Nat) (clause : Bytes) : Option Nat :=
  let who := clause.takeWhile fun b => (Text.encode "ugoa").contains b
  let all := who = [] || who.contains 97
  let groups : List (UInt8 × Nat) := [(117, 0o100), (103, 0o10), (111, 1)]
  let places := groups.filter fun (letter, _) => all || who.contains letter
  let mask := places.foldl (fun n (_, place) => n + 7 * place) 0
  match clause.drop who.length with
  | operator :: text =>
    let bits := places.foldl (fun n (_, place) => n + permissionBits text * place) 0
    if !text.all fun b => (Text.encode "rwx").contains b then none
    else if operator = 61 then some ((permissions &&& (allPermissions ^^^ mask)) ||| bits)
    else if operator = 43 then some (permissions ||| bits)
    else if operator = 45 then some (permissions &&& (allPermissions ^^^ bits))
    else none
  | [] => none

/-- Tell the permissions that new files do not get, or set them. -/
def tellMask (arguments : List Bytes) : Run π Nat := do
  let (found, rest) ← options "S" arguments
  let mask := (← Run.state).mask
  match rest with
  | [] =>
    if found ≠ [] then
      let left := allPermissions ^^^ mask
      let text := "u=" ++ permissions (left / 0o100) ++ ",g=" ++ permissions (left / 0o10)
        ++ ",o=" ++ permissions left
      sayLine (Text.encode text)
    else
      let digits := Text.encode (String.ofList (Nat.toDigits 8 mask))
      sayLine (List.replicate (4 - digits.length) 48 ++ digits)
  | text :: _ =>
    if (text.head?.map isDigit).getD false then
      if text.all isOctal then
        Run.modify fun s => { s with mask := valueOf 8 text &&& allPermissions }
      else giveUp (Text.encode "Illegal number: " ++ text)
    else
      match (text.splitOn 44).foldlM applyClause (allPermissions ^^^ mask) with
      | some left => Run.modify fun s => { s with mask := allPermissions ^^^ left }
      | none => giveUp (Text.encode "Illegal mode: " ++ text)
  pure 0

/-- Tell how long the shell and its children took. -/
def tellTimes : Run π Nat := do
  sayLine (Text.encode "0m0.000000s 0m0.000000s")
  sayLine (Text.encode "0m0.000000s 0m0.000000s")
  pure 0

/-- Tell a limit that is not there. -/
def tellLimits (arguments : List Bytes) : Run π Nat := do
  let (_, rest) ← options "HSatfdscmlpnvwr" arguments
  if rest = [] then sayLine (Text.encode "unlimited")
  pure 0

end Orchestrator.Shell
