import Orchestrator.Shell.Expression
import Orchestrator.Shell.Variables

namespace Orchestrator.Shell

/-!
# The shell — values of expressions

* `Expression.evaluate` — the value of an expression; an assignment inside it is carried out. What
  comes before something that is missing is carried out too.
* `arithmetic` — the value of the expression that a text spells.
-/

variable {π : Type}

namespace Expression

/-- The value of a variable as a number; one without a value counts as zero. -/
def valueOfVariable (name : Bytes) : Run π Int := do
  match (← Run.state).get? name with
  | none => pure 0
  | some text =>
    if text.all isSpace then pure 0
    else
      match number? true text with
      | some n => pure n
      | none => giveUp (Text.encode "Illegal number: " ++ text)

/-- The result of an operation, with a complaint about a division by zero in the text. -/
def result (text : Bytes) (operation : Operation) (a b : Int) : Run π Int :=
  match operation.result? a b with
  | some n => pure n
  | none => giveUp (Text.encode "arithmetic expression: division by zero: \"" ++ text ++ [34])

/-- Complain about something that is missing in the text. -/
def refuse {α : Type} (text : Bytes) (lack : Lack) : Run π α :=
  giveUp (Text.encode ("arithmetic expression: " ++ lack.text ++ ": \"") ++ text ++ [34])

/-- Leave an expression in a text out; it has to be complete. -/
def skip (text : Bytes) (e : Expression) : Run π Unit :=
  match e.lack? with
  | some lack => refuse text lack
  | none => pure ()

/-- The value of an expression in a text. -/
def evaluate (text : Bytes) : Expression → Run π Int
  | number n => pure n
  | named name => valueOfVariable name
  | negative e => do pure (wrap (-(← evaluate text e)))
  | not e => do pure (Operation.truth ((← evaluate text e) == 0))
  | complement e => do pure (wrap (-(← evaluate text e) - 1))
  | binary operation a b => do
    let x ← evaluate text a
    let y ← evaluate text b
    result text operation x y
  | and a b => do
    if (← evaluate text a) = 0 then
      skip text b
      pure 0
    else pure (Operation.truth ((← evaluate text b) != 0))
  | or a b => do
    if (← evaluate text a) ≠ 0 then
      skip text b
      pure 1
    else pure (Operation.truth ((← evaluate text b) != 0))
  | either condition whenTrue whenFalse => do
    if (← evaluate text condition) ≠ 0 then
      let n ← evaluate text whenTrue
      skip text whenFalse
      pure n
    else
      skip text whenTrue
      evaluate text whenFalse
  | assign name operation? value => do
    let y ← evaluate text value
    let n ←
      match operation? with
      | none => pure y
      | some operation => do
        let x ← valueOfVariable name
        result text operation x y
    set name (Text.encode (toString n))
    pure n
  | missing => refuse text .primary
  | broken e lack => do
    let _ ← evaluate text e
    refuse text lack

end Expression

/-- The value of the expression that a text spells. -/
def arithmetic (text : Bytes) : Run π Int := (Expression.ofText text).evaluate text

end Orchestrator.Shell
