import Orchestrator.Fault
import Orchestrator.FileSystem.Query
import Orchestrator.Text.Search

namespace Orchestrator

/-!
# Examples — which programs of a directory are run

* `ExampleFilter` — a name is wanted if it contains one text and does not contain another.
* `ExampleFilter.select` — the wanted names in ascending order, each as often as it is given.
* `discover` — the paths of the wanted entries of a directory.

Names are compared code point by code point. An entry's name is read as text before anything else is
done with it, and the path is made from that text.
-/

/-- Which names are wanted. -/
structure ExampleFilter where
  /-- A wanted name contains this text. -/
  include_ : String
  /-- A wanted name does not contain this text. -/
  exclude : String
  deriving DecidableEq, Repr

namespace ExampleFilter

/-- Every example, but for those that need a human at the keyboard. -/
def standard : ExampleFilter := ⟨"example_", "human_only"⟩

instance : Inhabited ExampleFilter := ⟨standard⟩

/-- The name is wanted. -/
def accepts (f : ExampleFilter) (name : String) : Bool :=
  Text.occursIn f.include_.toList name.toList && !Text.occursIn f.exclude.toList name.toList

/-- The wanted names in ascending order. -/
def select (f : ExampleFilter) (names : List String) : List String :=
  (names.filter f.accepts).mergeSort fun a b => decide (a ≤ b)

theorem accepts_iff {f : ExampleFilter} {name : String} :
    f.accepts name = true ↔
      f.include_.toList <:+: name.toList ∧ ¬f.exclude.toList <:+: name.toList := by
  simp [accepts, ← Text.occursIn_iff]

example : standard.accepts "human_only_example_001" = false := by decide
example : standard.accepts "example_001" = true := by decide

end ExampleFilter

/-- The paths of the wanted entries of a directory, in ascending order of their names. -/
def discover {π : Type} (fs : FileSystem π) (start : Place) (dir : Path)
    (f : ExampleFilter) : Except Fault (List Path) :=
  match fs.list start dir with
  | .error cause => .error (.exampleDiscovery dir cause)
  | .ok names => .ok ((f.select (names.map Text.decode)).map dir.child)

end Orchestrator
