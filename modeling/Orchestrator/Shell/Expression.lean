import Orchestrator.Shell.Number

namespace Orchestrator.Shell

/-!
# The shell — expressions

* `Operation` — operations on two numbers, and their results.
* `Expression` — what stands between the parentheses of an expression.
* `Expression.ofText` — reading one.
* `Expression.lack?` — what is missing in it.
-/

/-- Operations on two numbers. -/
inductive Operation where
  | times
  | dividedBy
  | modulo
  | plus
  | minus
  | shiftLeft
  | shiftRight
  | less
  | lessOrEqual
  | greater
  | greaterOrEqual
  | equal
  | unequal
  | bitAnd
  | bitXor
  | bitOr
  deriving DecidableEq, Repr

namespace Operation

/-- The spelling of an operation. -/
def text : Operation → String
  | times => "*"
  | dividedBy => "/"
  | modulo => "%"
  | plus => "+"
  | minus => "-"
  | shiftLeft => "<<"
  | shiftRight => ">>"
  | less => "<"
  | lessOrEqual => "<="
  | greater => ">"
  | greaterOrEqual => ">="
  | equal => "=="
  | unequal => "!="
  | bitAnd => "&"
  | bitXor => "^"
  | bitOr => "|"

/-- All operations. -/
def all : List Operation :=
  [times, dividedBy, modulo, plus, minus, shiftLeft, shiftRight, less, lessOrEqual, greater,
    greaterOrEqual, equal, unequal, bitAnd, bitXor, bitOr]

/-- Operations that may be put together with an assignment. -/
def assigning : List Operation :=
  [times, dividedBy, modulo, plus, minus, shiftLeft, shiftRight, bitAnd, bitXor, bitOr]

/-- How tightly an operation binds. -/
def strength : Operation → Nat
  | times | dividedBy | modulo => 8
  | plus | minus => 7
  | shiftLeft | shiftRight => 6
  | less | lessOrEqual | greater | greaterOrEqual => 5
  | equal | unequal => 4
  | bitAnd => 3
  | bitXor => 2
  | bitOr => 1

/-- An operation that binds least. -/
def weakest : Nat := 1

/-- The truth of a comparison as a number. -/
def truth (b : Bool) : Int := if b then 1 else 0

/-- The bits of a number. -/
def bits (n : Int) : UInt64 := (n.emod UInt64.size).toNat.toUInt64

/-- The number with the given bits. -/
def ofBits (b : UInt64) : Int := wrap b.toNat

/-- The result of an operation; nothing is divided by zero. -/
def result? (operation : Operation) (a b : Int) : Option Int :=
  match operation with
  | times => some (wrap (a * b))
  | dividedBy => if b = 0 then none else some (wrap (a.tdiv b))
  | modulo => if b = 0 then none else some (wrap (a.tmod b))
  | plus => some (wrap (a + b))
  | minus => some (wrap (a - b))
  | shiftLeft => some (ofBits (bits a <<< bits b))
  | shiftRight => some (wrap (a >>> (b.emod 64).toNat))
  | less => some (truth (a < b))
  | lessOrEqual => some (truth (a ≤ b))
  | greater => some (truth (b < a))
  | greaterOrEqual => some (truth (b ≤ a))
  | equal => some (truth (a == b))
  | unequal => some (truth (a != b))
  | bitAnd => some (ofBits (bits a &&& bits b))
  | bitXor => some (ofBits (bits a ^^^ bits b))
  | bitOr => some (ofBits (bits a ||| bits b))

end Operation

/-- What is missing in an expression. -/
inductive Lack where
  | primary
  | closing
  | colon
  | ending
  deriving DecidableEq, Repr

/-- The wording of a lack. -/
def Lack.text : Lack → String
  | primary => "expecting primary"
  | closing => "expecting ')'"
  | colon => "expecting ':'"
  | ending => "expecting EOF"

/-- What stands between the parentheses. Where something is missing, what comes before it counts. -/
inductive Expression where
  | number (n : Int)
  | named (name : Bytes)
  | negative (e : Expression)
  | not (e : Expression)
  | complement (e : Expression)
  | binary (operation : Operation) (a b : Expression)
  | and (a b : Expression)
  | or (a b : Expression)
  | either (condition whenTrue whenFalse : Expression)
  | assign (name : Bytes) (operation? : Option Operation) (value : Expression)
  /-- There is no operand. -/
  | missing
  /-- Something is missing behind an expression. -/
  | broken (e : Expression) (lack : Lack)
  deriving Repr

namespace Expression

/-- What an expression is made of. -/
inductive Part where
  | number (n : Int)
  | name (bytes : Bytes)
  | sign (text : String)
  | other
  deriving DecidableEq, Repr

/-- The signs of the language, a longer one before those that it begins with. -/
def signs : List String :=
  ["<<=", ">>=", "<<", ">>", "<=", ">=", "==", "!=", "&&", "||", "+=", "-=", "*=", "/=", "%=",
    "&=", "^=", "|=", "(", ")", "*", "/", "%", "+", "-", "<", ">", "&", "^", "|", "?", ":", "~",
    "!", "="]

/-- The parts of a text of at most so many bytes. -/
def partsUpTo : (count : Nat) → Bytes → List Part
  | 0, _ | _, [] => []
  | count + 1, b :: rest =>
    if b == 32 || b == 9 || b == 10 then partsUpTo count rest
    else if beginsName b then
      let name := (b :: rest).takeWhile inName
      .name name :: partsUpTo count ((b :: rest).drop name.length)
    else
      match leadingNumber true (b :: rest) with
      | some (n, after) => .number (clamp n) :: partsUpTo count after
      | none =>
        match signs.find? fun sign => (Text.encode sign).isPrefixOf (b :: rest) with
        | some sign => .sign sign :: partsUpTo count ((b :: rest).drop sign.utf8ByteSize)
        | none => [.other]

/-- Reading an expression from its parts. Where something is missing, no parts are left. -/
abbrev Reading : Type := List Part → Expression × List Part

/-- The assignment that a sign spells: to a value, or to the result of an operation. -/
def assignment? (sign : String) : Option (Option Operation) :=
  if sign = "=" then some none
  else (Operation.assigning.find? fun operation => operation.text ++ "=" == sign).map some

mutual

/-- An assignment, or an expression without one. -/
def assignment : (fuel : Nat) → Reading
  | 0, _ => (.missing, [])
  | fuel + 1, parts =>
    match parts with
    | .name name :: .sign sign :: rest =>
      match assignment? sign with
      | some operation? =>
        let (value, rest) := assignment fuel rest
        (.assign name operation? value, rest)
      | none => choice fuel parts
    | _ => choice fuel parts

/-- A choice, or an expression without one. -/
def choice : (fuel : Nat) → Reading
  | 0, _ => (.missing, [])
  | fuel + 1, parts =>
    let (condition, rest) := disjunction fuel parts
    match rest with
    | .sign "?" :: rest =>
      let (whenTrue, rest) := assignment fuel rest
      match rest with
      | .sign ":" :: rest =>
        let (whenFalse, rest) := choice fuel rest
        (.either condition whenTrue whenFalse, rest)
      | _ => (.either condition (.broken whenTrue .colon) .missing, [])
    | _ => (condition, rest)

/-- Alternatives. -/
def disjunction : (fuel : Nat) → Reading
  | 0, _ => (.missing, [])
  | fuel + 1, parts =>
    let (a, rest) := conjunction fuel parts
    match rest with
    | .sign "||" :: rest =>
      let (b, rest) := disjunction fuel rest
      (.or a b, rest)
    | _ => (a, rest)

/-- Conditions that have to hold together. -/
def conjunction : (fuel : Nat) → Reading
  | 0, _ => (.missing, [])
  | fuel + 1, parts =>
    let (first, rest) := primary fuel parts
    let (a, rest) := operations fuel Operation.weakest first rest
    match rest with
    | .sign "&&" :: rest =>
      let (b, rest) := conjunction fuel rest
      (.and a b, rest)
    | _ => (a, rest)

/-- The operations behind a first operand, as far as they bind tightly enough. -/
def operations : (fuel : Nat) → (strength : Nat) → Expression → Reading
  | 0, _, _, _ => (.missing, [])
  | fuel + 1, strength, a, parts =>
    match parts with
    | .sign sign :: rest =>
      match Operation.all.find? fun operation => operation.text == sign with
      | some operation =>
        if operation.strength < strength then (a, parts)
        else
          let (b, rest) := primary fuel rest
          let (b, rest) := operations fuel (operation.strength + 1) b rest
          operations fuel strength (.binary operation a b) rest
      | none => (a, parts)
    | _ => (a, parts)

/-- An operand. -/
def primary : (fuel : Nat) → Reading
  | 0, _ => (.missing, [])
  | fuel + 1, parts =>
    match parts with
    | .number n :: rest => (.number n, rest)
    | .name name :: rest => (.named name, rest)
    | .sign "(" :: rest =>
      let (e, rest) := assignment fuel rest
      match rest with
      | .sign ")" :: rest => (e, rest)
      | _ => (.broken e .closing, [])
    | .sign "+" :: rest => primary fuel rest
    | .sign "-" :: rest =>
      let (e, rest) := primary fuel rest
      (.negative e, rest)
    | .sign "!" :: rest =>
      let (e, rest) := primary fuel rest
      (.not e, rest)
    | .sign "~" :: rest =>
      let (e, rest) := primary fuel rest
      (.complement e, rest)
    | _ => (.missing, [])

end

/-- The expression that a text spells. -/
def ofText (text : Bytes) : Expression :=
  let parts := partsUpTo text.length text
  match assignment (8 * (parts.length + 1)) parts with
  | (e, []) => e
  | (e, _) => .broken e .ending

/-- What is missing first in an expression. -/
def lack? : Expression → Option Lack
  | number _ | named _ => none
  | negative e | not e | complement e | assign _ _ e => e.lack?
  | binary _ a b | and a b | or a b => a.lack?.or b.lack?
  | either condition whenTrue whenFalse =>
    (condition.lack?.or whenTrue.lack?).or whenFalse.lack?
  | missing => some .primary
  | broken e lack => e.lack?.or (some lack)

end Expression

end Orchestrator.Shell
