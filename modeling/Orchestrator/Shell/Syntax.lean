import Orchestrator.Text.Utf8

namespace Orchestrator.Shell

/-!
# The shell — what its language says

* `Piece`, `Word` — words, of text and of values that are put in when the word is used.
* `Use` — what becomes of the value of a parameter.
* `Redirection` — where a command reads from and writes to.
* `Command` — commands, alone or put together.

A here-document is kept apart from its command: the command knows its number only.
-/

/-- The side of a value that a pattern is cut off from. -/
inductive Side where
  | front
  | back
  deriving DecidableEq, Repr

/-- How a descriptor is opened. -/
inductive Opening where
  /-- For reading. -/
  | input
  /-- For writing, from nothing. -/
  | output
  /-- For writing, from nothing, even if a file is not to be lost. -/
  | replacement
  /-- For writing behind what is there. -/
  | append
  /-- For reading and writing. -/
  | both
  deriving DecidableEq, Repr

mutual

/-- A piece of a word. What is `quoted` is neither split nor taken as a pattern. -/
inductive Piece where
  | text (bytes : Bytes) (quoted : Bool)
  /-- The value of a parameter. -/
  | parameter (name : Bytes) (use : Use) (quoted : Bool)
  /-- What commands write, without the newlines at its end. -/
  | output (commands : Option Command) (quoted : Bool)
  /-- The value of an expression. -/
  | arithmetic (expression : List Piece) (quoted : Bool)

/-- What becomes of the value of a parameter. With `emptyToo`, an empty value is treated as none. -/
inductive Use where
  | value
  /-- The number of its bytes. -/
  | length
  /-- A word in place of no value. -/
  | fallback (emptyToo : Bool) (word : List Piece)
  /-- A word in place of no value, which becomes the value. -/
  | assign (emptyToo : Bool) (word : List Piece)
  /-- A complaint about no value. -/
  | demand (emptyToo : Bool) (word : List Piece)
  /-- A word in place of a value. -/
  | replace (emptyToo : Bool) (word : List Piece)
  /-- The value without the shortest or the longest match of a pattern on one side. -/
  | trim (side : Side) (longest : Bool) (pattern : List Piece)
  /-- No use that is known. -/
  | unknown

/-- Where a descriptor leads. -/
inductive Redirection where
  | file (descriptor : Nat) (opening : Opening) (path : List Piece)
  /-- To where another descriptor leads, or nowhere. -/
  | duplicate (descriptor : Nat) (source : List Piece)
  /-- To the here-document with a number. -/
  | document (descriptor : Nat) (number : Nat)

/-- A command; one that can complain knows its line. -/
inductive Command where
  | simple (line : Nat) (bindings : List (Bytes × List Piece)) (words : List (List Piece))
      (redirections : List Redirection)
  | pipeline (commands : List Command)
  | negation (command : Command)
  /-- The second command runs if the first succeeds. -/
  | conjunction (first second : Command)
  /-- The second command runs if the first fails. -/
  | disjunction (first second : Command)
  | sequence (first second : Command)
  /-- A command that is not waited for. -/
  | background (command : Command)
  | subshell (line : Nat) (command : Command) (redirections : List Redirection)
  | redirected (line : Nat) (command : Command) (redirections : List Redirection)
  | choice (condition : Command) (positive : Command) (negative : Option Command)
  /-- The body is repeated as long as the condition succeeds, or fails. -/
  | loop (untilSuccess : Bool) (condition body : Command)
  | iteration (line : Nat) (name : Bytes) (words : List (List Piece)) (body : Command)
  | selection (line : Nat) (subject : List Piece)
      (cases : List (List (List Piece) × Option Command))
  | definition (name : Bytes) (body : Command)

end

/-- A word; it may turn out as any number of fields. -/
abbrev Word := List Piece

/-! ### Names -/

/-- A byte that a name can begin with. -/
def beginsName (b : UInt8) : Bool :=
  (65 ≤ b && b ≤ 90) || (97 ≤ b && b ≤ 122) || b == 95

/-- A decimal digit. -/
def isDigit (b : UInt8) : Bool := 48 ≤ b && b ≤ 57

/-- A byte that a name can hold. -/
def inName (b : UInt8) : Bool := beginsName b || isDigit b

/-- A name of a variable. -/
def isName : Bytes → Bool
  | [] => false
  | first :: rest => beginsName first && rest.all inName

/-- The parameters that are no variables and have one byte as their name, digits aside. -/
def specialNames : Bytes := Text.encode "!#$*-?@"

/-- A parameter with a name of one byte. -/
def isSpecial (b : UInt8) : Bool := specialNames.contains b || isDigit b

/-! ### Words -/

/-- The quoted text of nothing, which makes a word a field even if all else in it is empty. -/
def Piece.mark : Piece := .text [] true

/-- The piece is quoted text. -/
def Piece.isQuotedText : Piece → Bool
  | .text _ quoted => quoted
  | _ => false

/-- A word has quotes. -/
def Word.hasQuotes (word : Word) : Bool := word.any Piece.isQuotedText

/-- The text of a word without quotes and without values. -/
def Word.plain? : Word → Option Bytes
  | [] => some []
  | .text bytes false :: rest => (Word.plain? rest).map (bytes ++ ·)
  | _ => none

/-- The text of a word with its quotes left out, and without values. -/
def Word.unquoted (word : Word) : Bytes :=
  word.flatMap fun
    | .text bytes _ => bytes
    | _ => []

/-- The name and the value of a word that binds a variable. -/
def Word.binding? : Word → Option (Bytes × Word)
  | .text bytes false :: rest =>
    let name := bytes.takeWhile inName
    match bytes.drop name.length with
    | 61 :: value => if isName name then some (name, .text value false :: rest) else none
    | _ => none
  | _ => none

end Orchestrator.Shell
