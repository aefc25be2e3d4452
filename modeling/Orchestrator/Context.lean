import Orchestrator.Path
import Orchestrator.Toolchain

namespace Orchestrator

/-!
# Contexts — where a command runs

* `Context` — a working directory and variables on top of the inherited ones.
* `Context.var` — what a context says about a variable: its last binding counts.
* `Environment` — the variables of a process in ascending order of their names. A process may find
  any bytes in them.
* `Environment.extend` — the variables of a child: the inherited ones with a context's bindings put
  in from left to right.
* `Environment.value?` — what a process finds under a name. It looks for the first entry that reads
  `name=`, so names that are empty or hold an equals sign do not work as others do.
-/

/-- Where a command runs and what is added to its environment. Without a working directory it runs
where its parent does. -/
structure Context where
  workingDir : Option Path
  env : List (String × String)
  deriving DecidableEq, Repr, Inhabited

namespace Context

/-- Run in a directory, with the inherited environment. -/
def inDir (dir : Path) : Context := ⟨some dir, []⟩

/-- Add a binding; it takes precedence over those made before. -/
def push (ctx : Context) (name value : String) : Context :=
  { ctx with env := ctx.env ++ [(name, value)] }

/-- Add the bindings of a toolchain. -/
def withToolchain (ctx : Context) (t : Toolchain) : Context :=
  { ctx with env := ctx.env ++ t.bindings }

/-- What the context says about a variable. -/
def var (ctx : Context) (name : String) : Option String :=
  (ctx.env.reverse.find? fun binding => binding.1 == name).map (·.2)

/-- Two contexts are the same when their directories are the same path and their bindings agree. -/
def same (a b : Context) : Bool :=
  (match a.workingDir, b.workingDir with
    | none, none => true
    | some p, some q => p.same q
    | _, _ => false) && a.env == b.env

end Context

/-- The variables of a process, each with its value. -/
abbrev Environment := List (Bytes × Bytes)

namespace Environment

/-- The sign between a name and its value. -/
def equals : UInt8 := 61

/-- Bind a variable, in place of its binding or in the order of the names. -/
def bind (name value : Bytes) : Environment → Environment
  | [] => [(name, value)]
  | (other, old) :: rest =>
    if name = other then (name, value) :: rest
    else if name < other then (name, value) :: (other, old) :: rest
    else (other, old) :: bind name value rest

/-- Bind variables from left to right. -/
def bindAll (env : Environment) (bindings : List (Bytes × Bytes)) : Environment :=
  bindings.foldl (fun env (name, value) => env.bind name value) env

/-- The environment with the given bindings, the last one of a name counting. -/
def ofBindings (bindings : List (Bytes × Bytes)) : Environment := bindAll [] bindings

/-- A variable as a process is given it. -/
def entry (name value : Bytes) : Bytes := name ++ equals :: value

/-- The name and the value in an entry. They are parted at the first equals sign that has a byte
before it. -/
def asBinding? : Bytes → Option (Bytes × Bytes)
  | [] => none
  | first :: rest =>
    let more := rest.takeWhile (· != equals)
    (rest.drop more.length).tail?.map fun value => (first :: more, value)

/-- The variables as a process reads them that means to change some. -/
def reread (env : Environment) : Environment :=
  ofBindings (env.filterMap fun (name, value) => asBinding? (entry name value))

/-- The variables of a child: those of its parent, and the bindings of a context put in from left to
right. Where there is nothing to put in, the entries are handed on as they are. -/
def extend (inherited : Environment) (bindings : List (String × String)) : Environment :=
  if bindings = [] then inherited
  else
    inherited.reread.bindAll
      (bindings.map fun (name, value) => (Text.encode name, Text.encode value))

/-- What a process finds under a name. -/
def value? (env : Environment) (name : Bytes) : Option Bytes :=
  if name = [] then none
  else
    let wanted := name ++ [equals]
    env.findSome? fun (key, value) =>
      let entry := entry key value
      if wanted.isPrefixOf entry then some (entry.drop wanted.length) else none

end Environment

end Orchestrator
