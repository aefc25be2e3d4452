import Orchestrator.Text.Digits
import Orchestrator.Shell.Syntax

namespace Orchestrator.Shell

/-!
# The shell — numbers

Numbers have 64 bits and a sign.

* `wrap` — the number that is kept of a result.
* `leadingNumber` — the number that a text begins with.
* `number?` — the number that a text is, with blanks around it.
-/

/-- The greatest number. -/
def greatest : Int := 0x7fffffffffffffff

/-- The least number. -/
def least : Int := -greatest - 1

/-- The number that is kept of a result. -/
def wrap (n : Int) : Int := n.bmod UInt64.size

/-- The nearest number to a result. -/
def clamp (n : Int) : Int := max least (min greatest n)

/-- A blank in front of a number or behind it. -/
def isSpace (b : UInt8) : Bool := b == 32 || (9 ≤ b && b ≤ 13)

/-- The value of a digit up to base sixteen. -/
def digitValue? (b : UInt8) : Option Nat :=
  if isDigit b then some (b.toNat - 48)
  else if 97 ≤ b && b ≤ 102 then some (b.toNat - 87)
  else if 65 ≤ b && b ≤ 70 then some (b.toNat - 55)
  else none

/-- The digits of a base that a text begins with. -/
def baseDigits (base : Nat) (text : Bytes) : Bytes :=
  text.takeWhile fun b => (digitValue? b).any (· < base)

/-- The value of digits in a base. -/
def valueOf (base : Nat) (digits : Bytes) : Nat :=
  digits.foldl (fun n b => n * base + (digitValue? b).getD 0) 0

/-- The number without a sign that a text begins with in a base, and what follows it. -/
def inBase? (base : Nat) (text : Bytes) : Option (Nat × Bytes) :=
  match baseDigits base text with
  | [] => none
  | digits => some (valueOf base digits, text.drop digits.length)

/-- The number that a text begins with. With `anyBase`, it may be told by its beginning that it is
not decimal. -/
def leadingNumber (anyBase : Bool) (text : Bytes) : Option (Nat × Bytes) :=
  if !anyBase then inBase? 10 text
  else
    match text with
    | 48 :: 120 :: rest | 48 :: 88 :: rest => (inBase? 16 rest).or (some (0, text.drop 1))
    | 48 :: _ => inBase? 8 text
    | _ => inBase? 10 text

/-- The number with a sign that a text begins with behind blanks, and what follows it. -/
def signedNumber (anyBase : Bool) (text : Bytes) : Option (Int × Bytes) :=
  match text.dropWhile isSpace with
  | 45 :: rest => (leadingNumber anyBase rest).map fun (n, after) => (-(n : Int), after)
  | 43 :: rest => (leadingNumber anyBase rest).map fun (n, after) => (n, after)
  | rest => (leadingNumber anyBase rest).map fun (n, after) => (n, after)

/-- The number that a text is. -/
def number? (anyBase : Bool) (text : Bytes) : Option Int :=
  (signedNumber anyBase text).bind fun (n, rest) =>
    if rest.all isSpace && least ≤ n && n ≤ greatest then some n else none

/-- The greatest count that a command takes. -/
def greatestCount : Nat := 0x7fffffff

/-- The count that a text is. -/
def count? (text : Bytes) : Option Nat :=
  (number? false text).bind fun n =>
    if 0 ≤ n ∧ n ≤ greatestCount then some n.toNat else none

example : number? false (Text.encode " +3\r") = some 3 := by decide +kernel
example : number? true (Text.encode "0x1F") = some 31 := by decide +kernel
example : count? (Text.encode "-1") = none := by decide +kernel

end Orchestrator.Shell
