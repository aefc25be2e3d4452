import Orchestrator.CommandLine
import Orchestrator.FileSystem.Query
import Orchestrator.Child.Interpreter
import Orchestrator.Child.Program

namespace Orchestrator.Child

/-!
# Children — finding the program

How a command line becomes a running program, or why it does not.

* `Site` — where programs are looked for.
* `Site.execute` — the program behind one path. A script names the program that reads it.
* `Site.search` — a program without a slash in its name is looked for in the directories of `PATH`.
  A directory where it is missing or may not be executed is passed over; any other refusal is final.
  A context with a `PATH` of its own is searched by it, and has the shell read a file that is no
  program; otherwise the inherited `PATH` counts.
* `launch` — the whole way: first the working directory, then the program, resolved from there.
-/

variable {π : Type}

/-- The files that programs are looked for in, and the serials of those open for writing. -/
structure Site (π : Type) where
  files : FileSystem π
  held : List Nat

/-! ### What a program can be given -/

/-- An argument or a variable has at most this many bytes. -/
def stringLimit : Nat := 131071

/-- All that a program is given takes at most this many bytes. -/
def memoryLimit : Nat := 2097152

/-- The bytes that an argument or a variable takes on top of its own: a zero byte at its end, and an
address. -/
def stringOverhead : Nat := 9

/-- What a program would be given is too much for it. -/
def Invocation.isTooLarge (given : Invocation) : Bool :=
  let entries := given.environment.map fun (key, value) => Environment.entry key value
  let sizes := (given.name :: given.arguments ++ entries).map List.length
  let total := sizes.foldl (fun total size => total + size + stringOverhead) 0
  sizes.any (stringLimit < ·) || memoryLimit < total

/-! ### Programs behind paths -/

/-- A script may be read by a script, this many times. -/
def scriptLimit : Nat := 5

namespace Site

/-- The file at a path, if it may be executed now. -/
def executable (site : Site π) (start : Place) (path : Path) : Except Cause (File π) :=
  match site.files.stat start path with
  | .error cause => .error cause
  | .ok (.file _ f) =>
    if !f.executable then .error .denied
    else if site.held.contains f.serial then .error .busy
    else .ok f
  | .ok _ => .error .denied

/-- The file that an interpreter's name leads to. An empty name leads to the directory itself. -/
def interpreterFile (site : Site π) (start : Place) (name : Bytes) : Except Cause (File π) :=
  if name = [] then .error .denied else site.executable start ⟨name⟩

/-- The program that a file at a path is or is read by, after at most `scripts` scripts more. -/
def load (site : Site π) : (scripts : Nat) → Path → File π → Invocation →
    Except Cause (π × Invocation)
  | scripts, path, file, given =>
    match file.program, Interpreter.ofContents? file.contents with
    | some program, _ => .ok (program, given)
    | none, none => .error .notAProgram
    | none, some interpreter =>
      match site.interpreterFile given.directory interpreter.name, scripts with
      | .error cause, _ => .error cause
      | .ok _, 0 => .error .tooManyLinks
      | .ok reader, scripts + 1 =>
        let arguments := interpreter.argument?.toList ++ path.bytes :: given.arguments
        let given := { given with name := interpreter.name, arguments := arguments }
        site.load scripts ⟨interpreter.name⟩ reader given

/-- The program behind a path. -/
def execute (site : Site π) (given : Invocation) (path : Path) :
    Except Cause (π × Invocation) :=
  match site.executable given.directory path with
  | .error cause => .error cause
  | .ok file =>
    if given.isTooLarge then .error .argumentsTooLong
    else site.load scriptLimit path file given

/-- Where the shell is. -/
def shellPath : Path := .ofString "/bin/sh"

/-- The shell, to read the file at a path. -/
def executeShell (site : Site π) (given : Invocation) (path : Path) :
    Except Cause (π × Invocation) :=
  let arguments := path.bytes :: given.arguments
  site.execute { given with name := shellPath.bytes, arguments := arguments } shellPath

end Site

/-! ### Programs by name -/

/-- The variable that names the directories of programs. -/
def pathVariable : String := "PATH"

/-- Where programs are looked for if the environment does not say. -/
def standardSearchPath : String := "/bin:/usr/bin"

/-- Directories whose path is too long for any path are not used: the last one is left out, and any
other counts as the directory that the program runs in. -/
def usable : List Bytes → List Bytes
  | [] => []
  | [dir] => if FileSystem.pathLimit ≤ dir.length then [] else [dir]
  | dir :: rest => (if FileSystem.pathLimit ≤ dir.length then [] else dir) :: usable rest

/-- The directories that programs are looked for in, as an environment names them. -/
def searchDirs (env : Environment) : List Bytes :=
  let value := (env.value? (Text.encode pathVariable)).getD (Text.encode standardSearchPath)
  usable (value.splitOn 58)

/-- The path of a name in a directory. Of a name that is too long, only so much is looked at that it
stays too long. -/
def pathIn (dir name : Bytes) : Path :=
  let name := name.take (FileSystem.nameLimit + 2)
  if dir = [] then ⟨name⟩ else ⟨dir ++ Path.slash :: name⟩

namespace Site

/-- The program behind a path, which the shell reads if it is none and `reading` says so. -/
def executeOrRead (site : Site π) (given : Invocation) (reading : Bool) (path : Path) :
    Except Cause (π × Invocation) :=
  match site.execute given path with
  | .error .notAProgram =>
    if reading then site.executeShell given path else .error .notAProgram
  | outcome => outcome

/-- Look for a program in directories; with `reading`, the shell reads a file that is no program.
`denied` tells that it was found and might not be executed, and `last` why the last directory was
passed over. -/
def searchIn (site : Site π) (given : Invocation) (reading denied : Bool) (last : Cause) :
    List Bytes → Except Cause (π × Invocation)
  | [] => .error (if denied then .denied else last)
  | dir :: rest =>
    match site.executeOrRead given reading (pathIn dir given.name) with
    | .ok found => .ok found
    | .error .denied => site.searchIn given reading true last rest
    | .error .noEntry => site.searchIn given reading denied .noEntry rest
    | .error .notADirectory => site.searchIn given reading denied .notADirectory rest
    | .error cause => .error cause

/-- The program that a name stands for, if it has no slash in one of the directories `dirs`. -/
def search (site : Site π) (given : Invocation) (reading : Bool) (dirs : List Bytes) :
    Except Cause (π × Invocation) :=
  if given.name.contains Path.slash then site.execute given ⟨given.name⟩
  else if given.name = [] then .error .noEntry
  else site.searchIn given reading false .noEntry dirs

end Site

/-! ### Commands -/

/-- A command with a zero byte anywhere cannot be handed to the system. -/
def hasZero (command : CommandLine) (ctx : Context) : Bool :=
  let inText (s : String) := s.toList.contains '\x00'
  command.tokens.any inText || ctx.env.any (fun (name, value) => inText name || inText value)
    || (ctx.workingDir.map (·.bytes.contains 0)).getD false

/-- The directory that a command runs in. -/
def workingDirectory (fs : FileSystem π) (start : Place) (ctx : Context) :
    Except Cause Place :=
  match ctx.workingDir with
  | none => .ok start
  | some dir => fs.directory start dir

/-- Find the program of a command line, and what it is given. -/
def launch (site : Site π) (start : Place) (inherited : Environment) (command : CommandLine)
    (ctx : Context) : Except Cause (π × Invocation) :=
  if hasZero command ctx then .error .zeroInCommand
  else
    match workingDirectory site.files start ctx with
    | .error cause => .error cause
    | .ok directory =>
      let environment := inherited.extend ctx.env
      let arguments := command.arguments.map Text.encode
      let given : Invocation :=
        ⟨Text.encode command.program, arguments, environment, directory, []⟩
      let hasOwnPath := (ctx.var pathVariable).isSome
      let dirs := searchDirs (if hasOwnPath then environment else inherited)
      site.search given hasOwnPath dirs

end Orchestrator.Child
