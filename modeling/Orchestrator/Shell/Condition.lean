import Orchestrator.Shell.Number
import Orchestrator.Shell.Variables

namespace Orchestrator.Shell

/-!
# The shell — conditions

* `Sort` — the operators that conditions are made of.
* `Condition.holds` — whether the words of a condition hold, or what is wrong about them.

A word is an operator only where one can stand. Of two conditions both are always looked at.
-/

/-- What kind of operator a word is. -/
inductive OperatorKind where
  | unary
  | binary
  | not
  | and
  | or
  | opening
  | close
  deriving DecidableEq, Repr

namespace OperatorKind

/-- Operators with one operand. -/
def unaryNames : List String :=
  ["-r", "-w", "-x", "-e", "-f", "-d", "-c", "-b", "-p", "-u", "-g", "-k", "-s", "-t", "-z", "-n",
    "-h", "-O", "-G", "-L", "-S"]

/-- Operators with two operands. -/
def binaryNames : List String :=
  ["=", "!=", "<", ">", "-eq", "-ne", "-ge", "-gt", "-le", "-lt", "-nt", "-ot", "-ef"]

/-- The kind of operator that a word is. -/
def ofWord? (word : Bytes) : Option OperatorKind :=
  match Text.decode word with
  | "!" => some not
  | "-a" => some and
  | "-o" => some or
  | "(" => some opening
  | ")" => some close
  | text =>
    if unaryNames.contains text then some unary
    else if binaryNames.contains text then some binary
    else none

end OperatorKind

namespace Condition

/-- What stands at a place of a condition. -/
inductive Lexeme where
  | ending
  | operand
  | operator (sort : OperatorKind)
  deriving DecidableEq, Repr

/-- What the first word is, by those behind it. -/
def lexeme : List Bytes → Lexeme
  | [] => .ending
  | word :: rest =>
    match OperatorKind.ofWord? word, rest with
    | none, _ => .operand
    | some .unary, [] => .operand
    | some .unary, [_] => .operator .unary
    | some .unary, next :: _ =>
      if OperatorKind.ofWord? next = some .binary then .operand else .operator .unary
    | some .opening, [] => .operand
    | some sort, _ => .operator sort

/-! ### Single conditions -/

variable {π : Type}

/-- A word, with what is wrong about it. -/
def wrong {α : Type} (word : Bytes) (text : String) : Except Bytes α :=
  .error (if word = [] then Text.encode text else about word text)

/-- The number that a word is. -/
def number (word : Bytes) : Except Bytes Int :=
  match number? false word with
  | some n => .ok n
  | none => .error (Text.encode "Illegal number: " ++ word)

/-- A condition on one word. -/
def unary (s : State π) (operator word : Bytes) : Except Bytes Bool :=
  let path : Path := ⟨word⟩
  let found := s.files.stat s.directory path
  let stands := match found with
    | .ok _ => true
    | .error _ => false
  match Text.decode operator with
  | "-z" => .ok (word = [])
  | "-n" => .ok (word ≠ [])
  | "-t" => (number word).map fun _ => false
  | "-e" | "-r" | "-w" | "-O" | "-G" => .ok stands
  | "-f" => .ok (s.files.isFile s.directory path)
  | "-d" => .ok (s.files.isDirectory s.directory path)
  | "-c" => .ok (s.files.isDevice s.directory path)
  | "-x" =>
    .ok (match found with
      | .ok (.file _ f) => f.executable
      | .ok (.directory _) => true
      | _ => false)
  | "-s" =>
    .ok (match found with
      | .ok (.file _ f) => f.contents ≠ []
      | .ok (.directory _) => true
      | _ => false)
  | "-h" | "-L" =>
    .ok (match s.files.resolve s.directory .keep path with
      | .ok (.link _ _) => true
      | _ => false)
  | _ => .ok false

/-- Two paths lead to the same file. -/
def isSame (s : State π) (a b : Bytes) : Bool :=
  match s.files.stat s.directory ⟨a⟩, s.files.stat s.directory ⟨b⟩ with
  | .ok (.file _ f), .ok (.file _ g) => f.serial == g.serial
  | .ok (.device _ d), .ok (.device _ e) => d.serial == e.serial
  | .ok (.directory place), .ok (.directory other) => place == other
  | _, _ => false

/-- A condition on two words. -/
def binary (s : State π) (a operator b : Bytes) : Except Bytes Bool :=
  let compare (test : Int → Int → Bool) : Except Bytes Bool := do
    let x ← number a
    let y ← number b
    pure (test x y)
  match Text.decode operator with
  | "=" => .ok (a == b)
  | "!=" => .ok (a != b)
  | "<" => .ok (a < b)
  | ">" => .ok (b < a)
  | "-eq" => compare (· == ·)
  | "-ne" => compare (· != ·)
  | "-lt" => compare (· < ·)
  | "-le" => compare (· ≤ ·)
  | "-gt" => compare (· > ·)
  | "-ge" => compare (· ≥ ·)
  | "-ef" => .ok (isSame s a b)
  | _ => .ok false

/-! ### Conditions put together -/

/-- Whether a part of a condition holds, and the words from its last one on. -/
abbrev Reading : Type := Except Bytes (Bool × List Bytes)

mutual

/-- Alternatives; the first word is the given lexeme. -/
def alternatives (s : State π) : (fuel : Nat) → Lexeme → List Bytes → Reading
  | 0, _, words => .ok (false, words)
  | fuel + 1, first, words => do
    let (holds, words) ← joint s fuel first words
    if lexeme words.tail = .operator .or then
      let words := words.drop 2
      let (other, words) ← alternatives s fuel (lexeme words) words
      pure (holds || other, words)
    else pure (holds, words)

/-- Conditions that have to hold together. -/
def joint (s : State π) : (fuel : Nat) → Lexeme → List Bytes → Reading
  | 0, _, words => .ok (false, words)
  | fuel + 1, first, words => do
    let (holds, words) ← negated s fuel first words
    if lexeme words.tail = .operator .and then
      let words := words.drop 2
      let (other, words) ← joint s fuel (lexeme words) words
      pure (holds && other, words)
    else pure (holds, words)

/-- A condition that may be negated. -/
def negated (s : State π) : (fuel : Nat) → Lexeme → List Bytes → Reading
  | 0, _, words => .ok (false, words)
  | fuel + 1, first, words => do
    if first = .operator .not then
      let next := lexeme words.tail
      let words := if next = .ending then words else words.tail
      let (holds, words) ← negated s fuel next words
      pure (!holds, words)
    else primary s fuel first words

/-- A single condition, or one in parentheses. -/
def primary (s : State π) : (fuel : Nat) → Lexeme → List Bytes → Reading
  | 0, _, words => .ok (false, words)
  | fuel + 1, first, words =>
    match first, words with
    | .operator .opening, _ :: inner =>
      if lexeme inner = .operator .close then .ok (false, inner)
      else do
        let (holds, rest) ← alternatives s fuel (lexeme inner) inner
        if lexeme rest.tail = .operator .close then pure (holds, rest.tail)
        else wrong [] "closing paren expected"
    | .operator .unary, operator :: rest =>
      match rest with
      | [] => wrong operator "argument expected"
      | word :: _ => do pure (← unary s operator word, rest)
    | .ending, _ | _, [] => .ok (false, words)
    | _, word :: rest =>
      match lexeme rest, rest with
      | .operator .binary, [operator] => wrong operator "argument expected"
      | .operator .binary, operator :: other :: more => do
        pure (← binary s word operator other, other :: more)
      | _, _ => .ok (word ≠ [], words)

end

/-- Read all words of a condition that is the given lexeme first. -/
def whole (s : State π) (first : Lexeme) (words : List Bytes) : Except Bytes Bool := do
  let (holds, rest) ← alternatives s (8 * (words.length + 2)) first words
  match rest with
  | word :: _ :: _ => wrong word "unexpected operator"
  | _ => pure holds

/-- The words hold as a condition. Three or four words are first looked at as a whole. -/
def holds (s : State π) : List Bytes → Except Bytes Bool
  | [] => .ok false
  | [a, operator, b] =>
    if OperatorKind.ofWord? operator = some .binary then whole s .operand [a, operator, b]
    else if a = Text.encode "(" ∧ b = Text.encode ")" then whole s (lexeme [operator]) [operator]
    else if a = Text.encode "!" then
      (whole s (lexeme [operator, b]) [operator, b]).map (!·)
    else whole s (lexeme [a, operator, b]) [a, operator, b]
  | [a, b, c, d] =>
    if a = Text.encode "(" ∧ d = Text.encode ")" then whole s (lexeme [b, c]) [b, c]
    else if a = Text.encode "!" then (holds s [b, c, d]).map (!·)
    else whole s (lexeme [a, b, c, d]) [a, b, c, d]
  | words => whole s (lexeme words) words

end Condition

end Orchestrator.Shell
