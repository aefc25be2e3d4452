import Orchestrator.Text.Lines

namespace Orchestrator.Child

/-!
# Children — the first line of a script

A script begins with `#!` and names the program that reads it, and maybe one argument behind it.

* `Interpreter` — the program that reads a script, and its argument.
* `Interpreter.ofContents?` — what the first bytes of a file say.

Only the first `headLength` bytes are looked at, with zero bytes behind a shorter file. A first line
that does not end there is taken as far as it goes, unless that cuts the name itself. A zero byte
ends whatever it stands behind, so a name may be empty, and so may an argument.
-/

/-- The program that reads a script, and the argument it is given before the script's path. -/
structure Interpreter where
  name : Bytes
  argument? : Option Bytes
  deriving DecidableEq, Repr

open Text (isGap)

namespace Interpreter

/-- So much of a file is looked at. -/
def headLength : Nat := 256

/-- Take the gap at the end away. -/
def trimEnd (text : Bytes) : Bytes := (text.reverse.dropWhile isGap).reverse

/-- The text that names the program, out of the bytes that are `seen` behind the `#!`. A line that
ends in sight is taken whole. Of any other the last byte only tells whether the name ends before it;
if it does not, there is no text. -/
def text? (seen : Bytes) : Option Bytes :=
  let line := seen.takeWhile fun b => b != Text.newline && b != 0
  if seen[line.length]? = some Text.newline then some (trimEnd line)
  else if (seen.dropWhile isGap).all (fun b => !isGap b && b != 0) then none
  else some (trimEnd seen.dropLast)

/-- The name and the argument in a text. -/
def ofText? (text : Bytes) : Option Interpreter :=
  let text := text.dropWhile isGap
  let name := text.takeWhile fun b => !isGap b && b != 0
  let rest := text.drop name.length
  if text = [] then none
  else if rest.head?.any isGap then
    some ⟨name, some ((rest.dropWhile isGap).takeWhile (· != 0))⟩
  else some ⟨name, none⟩

/-- What the contents of a file say about the program that reads it. -/
def ofContents? : Bytes → Option Interpreter
  | 35 :: 33 :: rest =>
    let length := headLength - 2
    (text? ((rest ++ List.replicate length 0).take length)).bind ofText?
  | _ => none

example : ofContents? (Text.encode "#! ./i  a b \nx")
    = some ⟨Text.encode "./i", some (Text.encode "a b")⟩ := by decide +kernel
example : ofContents? (Text.encode "#!./i ")
    = some ⟨Text.encode "./i", some []⟩ := by decide +kernel
example : ofContents? (Text.encode "#!") = some ⟨[], none⟩ := by decide +kernel
example : ofContents? (Text.encode "#!\n") = none := by decide +kernel

end Interpreter

end Orchestrator.Child
