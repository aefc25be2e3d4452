import Orchestrator.Text.Utf8

namespace Orchestrator.Text

/-!
# Text — decimal digits

* `digits?` — the number that a row of digits spells. There is at least one digit, and nothing else.
-/

/-- The number that decimal digits spell. -/
def digits? (digits : Bytes) : Option Nat :=
  if digits ≠ [] ∧ digits.all (fun b => 48 ≤ b && b ≤ 57) then
    some (digits.foldl (fun n b => n * 10 + (b.toNat - 48)) 0)
  else none

/-- Without a digit there is no number. -/
@[simp] theorem digits?_nil : digits? [] = none := rfl

example : digits? [48, 49, 50] = some 12 := by decide
example : digits? [43, 49] = none := by decide

end Orchestrator.Text
