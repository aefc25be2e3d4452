import Orchestrator.Shell.Lookup

namespace Orchestrator.Shell

/-!
# The shell — changing the directory

* `logical` — the way that a path spells, with `..` cancelled against names.
* `changeDirectory` — the builtin that changes the directory.
* `tellDirectory` — the builtin that tells it.
-/

variable {π : Type}

/-- The variable with the directory. -/
def directoryVariable : String := "PWD"

/-- The variable with the directory before. -/
def formerVariable : String := "OLDPWD"

/-- The variable with the directories that others are looked for in. -/
def placesVariable : String := "CDPATH"

/-- Follow names from a way that is given backwards; `..` takes the last name away. -/
def followNames : List Bytes → List Bytes → List Bytes
  | way, [] => way
  | way, name :: rest =>
    if name = [] ∨ name = Path.dot then followNames way rest
    else if name = Path.dotDot then followNames way.tail rest
    else followNames (name :: way) rest

/-- The way that an absolute path spells. Two slashes at its beginning are kept. -/
def logical (path : Path) : Path :=
  let way := Location.toPath (followNames [] path.parts).reverse
  match path.bytes with
  | 47 :: 47 :: rest => if rest.head? = some Path.slash then way else ⟨Path.slash :: way.bytes⟩
  | _ => way

/-- The path begins with a dot or two as a part of their own. -/
def beginsWithDots (path : Path) : Bool :=
  let first := path.parts.headD []
  first == Path.dot || first == Path.dotDot

/-- Go to a directory, and keep in mind which way led there. -/
def State.goTo (s : State π) (isPhysical : Bool) (path : Path) : Except Cause (State π) :=
  let way := if isPhysical then path else logical ((⟨s.way⟩ : Path).join path)
  (s.files.directory s.directory way).map fun place =>
    let way := if isPhysical then place.location.toPath else way
    let s := s.setExported formerVariable s.way
    { s with directory := place, way := way.bytes }.setExported directoryVariable way.bytes

/-- The paths that a directory may have, each with whether the way there is told. -/
def State.places (s : State π) (path : Path) : List (Path × Bool) :=
  if path.isAbsolute || beginsWithDots path then [(path, false)]
  else
    let prefixes := ((s.getText? placesVariable).map (·.splitOn 58)).getD []
    prefixes.map (fun dir => (pathIn dir path.bytes, dir != [])) ++ [(path, false)]

/-- Change the directory. -/
def changeDirectory (arguments : List Bytes) : Run π Nat := do
  let (found, rest) ← options "LP" arguments
  let isPhysical := (found.getLast?.map (·.1)) == some 80
  let s ← Run.state
  let (wanted, tells) :=
    match rest with
    | [] => ((s.getText? "HOME").getD [], false)
    | [45] :: _ => ((s.getText? formerVariable).getD [], true)
    | path :: _ => (path, false)
  let path : Path := ⟨if wanted = [] then Path.dot else wanted⟩
  let isThere (place : Path × Bool) : Bool := s.files.isDirectory s.directory place.1
  let (place, isFar) := ((s.places path).find? isThere).getD (path, false)
  match s.goTo isPhysical place with
  | .error _ => giveUp (Text.encode "can't cd to " ++ path.bytes)
  | .ok after => do
    Run.modify fun _ => after
    if tells || isFar then sayLine after.way
    pure 0

/-- Tell the directory. -/
def tellDirectory (arguments : List Bytes) : Run π Nat := do
  let (found, _) ← options "LP" arguments
  let s ← Run.state
  let isPhysical := (found.getLast?.map (·.1)) == some 80
  sayLine (if isPhysical then s.directory.location.toPath.bytes else s.way)
  pure 0

example : logical (.ofString "/a/./b//../c") = .ofString "/a/c" := by decide +kernel

end Orchestrator.Shell
