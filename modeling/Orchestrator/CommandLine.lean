import Orchestrator.Path
import Orchestrator.Text.Blank

namespace Orchestrator

/-!
# Command lines

* `CommandLine` — a program and its arguments; there always is a program.
* `CommandLine.parse` — the command line that a line of text spells, words between blanks.
* `CommandLine.display` — the tokens with one space between them.

Displaying does not quote, so parsing undoes it only where every token is a word.
-/

/-- A program and its arguments. -/
structure CommandLine where
  program : String
  arguments : List String
  deriving DecidableEq, Repr, Inhabited

namespace CommandLine

/-- What is wrong with a list of tokens that is no command line. -/
inductive Problem where
  | noProgram
  deriving DecidableEq, Repr

/-- The words shown to the user. -/
def Problem.message : Problem → String
  | .noProgram => "command line has no executable"

/-- The program followed by its arguments. -/
def tokens (c : CommandLine) : List String := c.program :: c.arguments

/-- The command line with the given tokens. -/
def ofTokens : List String → Except Problem CommandLine
  | [] => .error .noProgram
  | program :: arguments => .ok ⟨program, arguments⟩

/-- The command line that a line of text spells; a blank line spells none. -/
def parse (line : String) : Option CommandLine :=
  match (Text.words line.toList).map String.ofList with
  | [] => none
  | program :: arguments => some ⟨program, arguments⟩

/-- The tokens with one space between them. -/
def display (c : CommandLine) : String := String.intercalate " " c.tokens

/-- The command line that runs the program at a path. -/
def ofPath (path : Path) : CommandLine := ⟨path.display, []⟩

/-- A token that displaying keeps apart from its neighbours: not empty, and without a blank. -/
def Clean (token : String) : Prop := token ≠ "" ∧ ∀ c ∈ token.toList, Text.isBlank c = false

instance (token : String) : Decidable (Clean token) := inferInstanceAs (Decidable (_ ∧ _))

@[simp] theorem tokens_mk (program : String) (arguments : List String) :
    tokens ⟨program, arguments⟩ = program :: arguments := rfl

@[simp] theorem ofTokens_tokens (c : CommandLine) : ofTokens c.tokens = .ok c := rfl

theorem ofTokens_eq_ok_iff {ts : List String} {c : CommandLine} :
    ofTokens ts = .ok c ↔ ts = c.tokens := by
  cases ts with
  | nil => simp [ofTokens, tokens]
  | cons t ts => cases c; simp [ofTokens]

example : parse "  make   mce_ut " = some ⟨"make", ["mce_ut"]⟩ := by decide
example : display ⟨"tar", ["-xzvf", "a.tar.gz"]⟩ = "tar -xzvf a.tar.gz" := by decide

end CommandLine

end Orchestrator
