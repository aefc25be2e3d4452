import Orchestrator.Shell.Number
import Orchestrator.Shell.Variables

namespace Orchestrator.Shell

/-!
# The shell — options

* `options` — the options that the arguments of a builtin begin with.
* `optionTable` — the options of the shell itself, with `setOptions`, which reads them.
* `quoted` — a text in quotes, as it can be read again.
-/

variable {π : Type}

/-! ### Options of builtins -/

/-- The byte that begins an option. -/
def dash : UInt8 := 45

/-- Whether an option takes a word, if it is allowed at all. A colon stands behind those that do. -/
def takesWord? (letter : UInt8) : Bytes → Option Bool
  | [] => none
  | [only] => if only = letter then some false else none
  | first :: next :: rest =>
    if first = letter then some (next == 58)
    else if next = 58 then takesWord? letter rest
    else takesWord? letter (next :: rest)

/-- The options in a word, with the words they take. -/
def letters (allowed : Bytes) : Bytes → List Bytes → Run π (List (UInt8 × Bytes) × List Bytes)
  | [], rest => pure ([], rest)
  | letter :: more, rest =>
    match takesWord? letter allowed with
    | none => giveUp (Text.encode "Illegal option -" ++ [letter])
    | some false => do
      let (later, rest) ← letters allowed more rest
      pure ((letter, []) :: later, rest)
    | some true =>
      match more, rest with
      | [], [] => giveUp (Text.encode "No arg for -" ++ letter :: Text.encode " option")
      | [], word :: rest => pure ([(letter, word)], rest)
      | more, rest => pure ([(letter, more)], rest)

/-- The options that at most so many words begin with, and the words behind them. -/
def optionsUpTo (allowed : Bytes) : (count : Nat) → List Bytes →
    Run π (List (UInt8 × Bytes) × List Bytes)
  | 0, words => pure ([], words)
  | _, [] => pure ([], [])
  | count + 1, word :: rest =>
    match word with
    | [45, 45] => pure ([], rest)
    | 45 :: first :: more => do
      let (found, rest) ← letters allowed (first :: more) rest
      let (later, rest) ← optionsUpTo allowed count rest
      pure (found ++ later, rest)
    | _ => pure ([], word :: rest)

/-- The options that words begin with, and the words behind them. -/
def options (allowed : String) (words : List Bytes) :
    Run π (List (UInt8 × Bytes) × List Bytes) :=
  optionsUpTo (Text.encode allowed) words.length words

/-- An option is among those found. -/
def given (letter : Char) (found : List (UInt8 × Bytes)) : Bool :=
  found.any fun (found, _) => found == letter.toNat.toUInt8

/-- The count that an argument is. -/
def countOf (word : Bytes) : Run π Nat :=
  match count? word with
  | some n => pure n
  | none => giveUp (Text.encode "Illegal number: " ++ word)

/-! ### Quotes -/

/-- A text of at most so many bytes in quotes. -/
def quotedUpTo : (count : Nat) → Bytes → Bytes
  | 0, _ => []
  | count + 1, text =>
    let plain := text.takeWhile (· != 39)
    let rest := text.drop plain.length
    let marks := rest.takeWhile (· == 39)
    let after := rest.drop marks.length
    let shown := 39 :: plain ++ [39] ++ if marks = [] then [] else 34 :: marks ++ [34]
    if after = [] then shown else shown ++ quotedUpTo count after

/-- A text in quotes, as it can be read again. -/
def quoted (text : Bytes) : Bytes := quotedUpTo (text.length + 1) text

example : quoted (Text.encode "q'r") = Text.encode "'q'\"'\"'r'" := by decide +kernel

/-! ### Options of the shell -/

/-- The options of the shell: their names and letters. Those without a letter have a number. -/
def optionTable : List (String × UInt8) :=
  [("errexit", 101), ("noglob", 102), ("ignoreeof", 73), ("interactive", 105), ("monitor", 109),
    ("noexec", 110), ("stdin", 115), ("xtrace", 120), ("verbose", 118), ("vi", 86),
    ("emacs", 69), ("noclobber", 67), ("allexport", 97), ("notify", 98), ("nounset", 117),
    ("privileged", 112), ("nolog", 1), ("debug", 2)]

/-- Turn an option on or off. -/
def State.setOption (s : State π) (isOn : Bool) (letter : UInt8) : State π :=
  let others := s.options.filter (· != letter)
  { s with options := if isOn then letter :: others else others }

/-- Turn the option with a letter on or off. -/
def setLetter (isOn : Bool) (letter : UInt8) : Run π Unit :=
  if optionTable.any fun (_, known) => known == letter && 2 < known then
    Run.modify (·.setOption isOn letter)
  else giveUp (Text.encode "Illegal option -" ++ [letter])

/-- Turn the option with a name on or off, or tell which ones are. -/
def setNamed (isOn : Bool) : Option Bytes → Run π Unit
  | some name =>
    match optionTable.lookup (Text.decode name) with
    | some letter => Run.modify (·.setOption isOn letter)
    | none => giveUp (Text.encode "Illegal option -o " ++ name)
  | none => do
    let s ← Run.state
    let line (option : String × UInt8) : String :=
      let isSet := s.options.contains option.2
      if isOn then
        let gap := String.ofList (List.replicate (16 - option.1.length) ' ')
        option.1 ++ gap ++ (if isSet then "on" else "off") ++ "\n"
      else "set " ++ (if isSet then "-o " else "+o ") ++ option.1 ++ "\n"
    let heading := if isOn then "Current option settings\n" else ""
    say (Text.encode (heading ++ String.join (optionTable.map line)))

/-- Turn the options with letters on or off. -/
def setLetters (isOn : Bool) : Bytes → List Bytes → Run π (List Bytes)
  | [], rest => pure rest
  | 111 :: more, rest => do
    setNamed isOn rest.head?
    setLetters isOn more rest.tail
  | letter :: more, rest => do
    setLetter isOn letter
    setLetters isOn more rest

/-- Read the options that at most so many words begin with. The words behind them are told, and
whether they are parameters even if there are none. -/
def setOptionsUpTo : (count : Nat) → List Bytes → Run π (List Bytes × Bool)
  | 0, words => pure (words, false)
  | _, [] => pure ([], false)
  | count + 1, word :: rest =>
    match word with
    | [45, 45] => pure (rest, true)
    | [45] => do
      Run.modify fun s => (s.setOption false 120).setOption false 118
      pure (rest, false)
    | 45 :: more => do setOptionsUpTo count (← setLetters true more rest)
    | 43 :: more => do setOptionsUpTo count (← setLetters false more rest)
    | _ => pure (word :: rest, false)

/-- Read the options that words begin with. -/
def setOptions (words : List Bytes) : Run π (List Bytes × Bool) :=
  setOptionsUpTo words.length words

/-- The letters of the options that are on, as they are shown. -/
def State.flags (s : State π) : Bytes :=
  ((optionTable.map (·.2)).filter fun letter => 2 < letter && s.options.contains letter).reverse

end Orchestrator.Shell
