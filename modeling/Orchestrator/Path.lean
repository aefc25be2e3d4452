import Orchestrator.Text.Utf8

namespace Orchestrator

/-!
# Paths

A path is the byte string handed to the system; it need not be text.

* `Path.join` — a path below another one. An absolute path replaces what it is joined to.
* `Path.components` — what a path says once repeated slashes and inner dots are left out. Two paths
  are the same (`Path.same`) when they say the same; `..` is never cancelled against a name, because
  the name may be a link.
* `Path.parts` — the pieces between slashes, as the system walks them.
* `Path.display` — the path as text.
-/

/-- A path as handed to the system. -/
structure Path where
  bytes : Bytes
  deriving DecidableEq, Repr, Inhabited

/-- One step of a path. -/
inductive Component where
  | root
  | here
  | parent
  | name (bytes : Bytes)
  deriving DecidableEq, Repr

namespace Path

/-- The byte between the parts of a path. -/
def slash : UInt8 := 47

/-- The part that stays where it is. -/
def dot : Bytes := [46]

/-- The part that goes up. -/
def dotDot : Bytes := [46, 46]

/-- The path that a text spells. -/
def ofString (s : String) : Path := ⟨Text.encode s⟩

/-- The path as text. -/
def display (p : Path) : String := Text.decode p.bytes

/-- An absolute path starts at the root, whatever it is resolved against. -/
def isAbsolute (p : Path) : Bool := p.bytes.head? == some slash

/-! ### Joining -/

/-- The path `q` below `p`. No slash is added after one that is there, or after nothing. -/
def join (p q : Path) : Path :=
  if q.isAbsolute then q
  else if p.bytes = [] ∨ p.bytes.getLast? = some slash then ⟨p.bytes ++ q.bytes⟩
  else ⟨p.bytes ++ slash :: q.bytes⟩

/-- The path of the entry called `name` below `p`. -/
def child (p : Path) (name : String) : Path := p.join (ofString name)

theorem join_of_isAbsolute {p q : Path} (h : q.isAbsolute = true) : p.join q = q := by
  simp [join, h]

/-! ### Parts and components -/

/-- The pieces between the slashes, empty ones included. -/
def parts (p : Path) : List Bytes := p.bytes.splitOn slash

/-- What a part inside a path says; an empty part and a dot say nothing. -/
def component? (part : Bytes) : Option Component :=
  if part = [] ∨ part = dot then none
  else if part = dotDot then some .parent
  else some (.name part)

/-- The steps of a path. Only a dot that begins a relative path counts as a step. -/
def components (p : Path) : List Component :=
  let rest := p.parts.filterMap component?
  if p.isAbsolute then .root :: rest
  else if p.parts.head? = some dot then .here :: rest
  else rest

/-- Two paths are the same when they take the same steps. -/
def same (p q : Path) : Bool := p.components == q.components

/-- The last step of a path, if it is a name. -/
def fileName? (p : Path) : Option Bytes :=
  match p.components.getLast? with
  | some (.name n) => some n
  | _ => none

/-- The path that takes the given steps. -/
def ofComponents : List Component → Path
  | [] => ⟨[]⟩
  | .root :: rest => (⟨[slash]⟩ : Path).join (ofComponents rest)
  | .here :: rest => joined dot rest
  | .parent :: rest => joined dotDot rest
  | .name n :: rest => joined n rest
where
  /-- A part followed by further steps. -/
  joined (part : Bytes) : List Component → Path
    | [] => ⟨part⟩
    | rest => (⟨part⟩ : Path).join (ofComponents rest)

example : (ofString "a/./b//c/").components = (ofString "a/b/c").components := by decide
example : (ofString "./a").components ≠ (ofString "a").components := by decide

end Path

end Orchestrator
