import Orchestrator.Shell.Number

namespace Orchestrator.Shell

/-!
# The shell — formatted output

* `interpret` — a text with its escapes carried out, as `echo` writes it.
* `Layout` — the width and the precision of a piece of output.
* `printed` — what a format makes of arguments, with what is wrong about them.

A format is used again as long as there are arguments left, and takes missing ones as empty.
-/

/-! ### Escapes -/

/-- An octal digit. -/
def isOctal (b : UInt8) : Bool := 48 ≤ b && b ≤ 55

/-- The byte that an escape stands for, and what follows; the escape is given without its backslash.
A backslash that begins no escape stands for itself. -/
def escaped (rest : Bytes) : UInt8 × Bytes :=
  match rest with
  | 92 :: rest => (92, rest)
  | 97 :: rest => (7, rest)
  | 98 :: rest => (8, rest)
  | 101 :: rest => (27, rest)
  | 102 :: rest => (12, rest)
  | 110 :: rest => (10, rest)
  | 114 :: rest => (13, rest)
  | 116 :: rest => (9, rest)
  | 118 :: rest => (11, rest)
  | _ =>
    match (rest.take 3).takeWhile isOctal with
    | [] => (92, rest)
    | digits => ((valueOf 8 digits).toUInt8, rest.drop digits.length)

/-- Carry out the escapes among so many bytes; tells whether one of them ends all output. -/
def interpretUpTo : (count : Nat) → Bytes → Bytes × Bool
  | 0, _ | _, [] => ([], false)
  | count + 1, 92 :: rest =>
    match rest with
    | 99 :: _ => ([], true)
    | _ =>
      let rest :=
        match rest with
        | 48 :: digit :: more => if isOctal digit then digit :: more else rest
        | _ => rest
      let (byte, rest) := escaped rest
      let (later, ends) := interpretUpTo count rest
      (byte :: later, ends)
  | count + 1, b :: rest =>
    let (later, ends) := interpretUpTo count rest
    (b :: later, ends)

/-- A text with its escapes carried out; tells whether one of them ends all output. -/
def interpret (text : Bytes) : Bytes × Bool := interpretUpTo text.length text

/-- What `echo` writes. -/
def echoed (endsLine : Bool) : List Bytes → Bytes
  | [] => if endsLine then [10] else []
  | text :: rest =>
    match interpret text, rest with
    | (shown, true), _ => shown
    | (shown, false), [] => shown ++ if endsLine then [10] else []
    | (shown, false), rest => shown ++ 32 :: echoed endsLine rest

/-! ### Layout -/

/-- How a piece of output is laid out. -/
structure Layout where
  flags : Bytes
  width : Nat
  precision? : Option Nat

namespace Layout

/-- The layout has the flag of a character. -/
def has (layout : Layout) (flag : Char) : Bool := layout.flags.contains flag.toNat.toUInt8

/-- A text with blanks up to the width. -/
def pad (layout : Layout) (text : Bytes) : Bytes :=
  let blanks := List.replicate (layout.width - text.length) 32
  if layout.has '-' then text ++ blanks else blanks ++ text

/-- So much of a text as the precision leaves. -/
def cut (layout : Layout) (text : Bytes) : Bytes :=
  match layout.precision? with
  | none => text
  | some length => text.take length

/-- Digits with zeros in front, behind a sign or a mark of their base. -/
def number (layout : Layout) (mark digits : Bytes) : Bytes :=
  let zeros :=
    match layout.precision? with
    | some length => length - digits.length
    | none =>
      if layout.has '0' && !layout.has '-' then layout.width - mark.length - digits.length else 0
  layout.pad (mark ++ List.replicate zeros 48 ++ digits)

/-- The digits of a number in a base; with a precision of zero, zero has none. -/
def digits (layout : Layout) (base : Nat) (n : Nat) : Bytes :=
  if n = 0 ∧ layout.precision? = some 0 then []
  else Text.encode (String.ofList (Nat.toDigits base n))

/-- A number with a sign. -/
def signed (layout : Layout) (n : Int) : Bytes :=
  let mark :=
    if n < 0 then [45] else if layout.has '+' then [43] else if layout.has ' ' then [32] else []
  layout.number mark (layout.digits 10 n.natAbs)

/-- A number in base eight; the alternate form begins with a zero. -/
def octal (layout : Layout) (n : Nat) : Bytes :=
  let digits := layout.digits 8 n
  let least := layout.precision?.getD 0
  let needsZero := layout.has '#' && digits.head? != some 48 && !(digits.length < least)
  layout.number [] (if needsZero then 48 :: digits else digits)

/-- A number in base sixteen; the alternate form of all but zero is marked. -/
def hexadecimal (layout : Layout) (isUpper : Bool) (n : Nat) : Bytes :=
  let digits := layout.digits 16 n
  let mark := if layout.has '#' && n != 0 then Text.encode "0x" else []
  let text := layout.number mark digits
  if isUpper then
    text.map fun b => if (97 ≤ b && b ≤ 102) || b == 120 then b - 32 else b
  else text

end Layout

/-! ### Arguments -/

/-- What was written, what is wrong, the arguments that are left, and whether some were taken. -/
structure Printing where
  out : Array UInt8
  complaints : Array Bytes
  arguments : List Bytes
  isFailure : Bool

namespace Printing

/-- Write more. -/
def write (p : Printing) (bytes : Bytes) : Printing := { p with out := p.out ++ bytes }

/-- Complain about an argument. -/
def complain (p : Printing) (argument : Bytes) (text : String) : Printing :=
  let complaint := argument ++ Text.encode (": " ++ text)
  { p with complaints := p.complaints.push complaint, isFailure := true }

/-- Take the next argument, if there is one. -/
def next (p : Printing) : Option Bytes × Printing :=
  match p.arguments with
  | [] => (none, p)
  | argument :: rest => (some argument, { p with arguments := rest })

/-- The number that an argument begins with, and whether all of it was read. -/
def leading (text : Bytes) : Int × Bytes :=
  (signedNumber true text).getD (0, text)

/-- Take a number between two bounds. A quote before a byte makes the number of that byte. With
`wraps`, negative numbers count from the upper bound down. -/
def nextNumber (p : Printing) (low high : Int) (wraps : Bool) : Int × Printing :=
  match p.next with
  | (none, p) => (0, p)
  | (some [], p) => (0, p)
  | (some (first :: more), p) =>
    if first = 34 ∨ first = 39 then ((more.headD 0).toNat, p)
    else
      let text := first :: more
      let (n, rest) := leading text
      let isOut := if wraps then high < n.natAbs else n < low || high < n
      let kept :=
        if isOut then (if n < 0 ∧ !wraps then low else high)
        else if wraps ∧ n < 0 then high + 1 + n
        else n
      if rest = text then (kept, p.complain text "expected numeric value")
      else if rest ≠ [] then (kept, p.complain text "not completely converted")
      else if isOut then (kept, p.complain text "Numerical result out of range")
      else (kept, p)

/-- Take a number with a sign. -/
def nextSigned (p : Printing) : Int × Printing := p.nextNumber least greatest false

/-- Take a number without a sign. -/
def nextUnsigned (p : Printing) : Nat × Printing :=
  let (n, p) := p.nextNumber 0 (UInt64.size - 1) true
  (n.toNat, p)

end Printing

/-! ### Formats -/

/-- How a use of a format ends: it was read to its end, or something ends the output. -/
inductive Finish where
  | complete
  | ended
  | mistake (complaint : Bytes)

/-- A width or a precision: digits, or a star for the next argument. -/
def size (format : Bytes) (p : Printing) : Option Int × Bytes × Printing :=
  match format with
  | 42 :: rest =>
    let (n, p) := p.nextSigned
    (some n, rest, p)
  | _ =>
    match format.takeWhile isDigit with
    | [] => (none, format, p)
    | digits => (some (valueOf 10 digits), format.drop digits.length, p)

/-- The layout that a directive begins with, and what follows. -/
def layoutOf (format : Bytes) (p : Printing) : Layout × Bytes × Printing :=
  let flags := format.takeWhile fun b => (Text.encode "#-+ 0").contains b
  let (width?, rest, p) := size (format.drop flags.length) p
  let width := width?.getD 0
  let flags := if width < 0 then 45 :: flags else flags
  let (precision?, rest, p) :=
    match rest with
    | 46 :: rest =>
      let (precision?, rest, p) := size rest p
      (some (precision?.getD 0), rest, p)
    | _ => (none, rest, p)
  let precision? := precision?.bind fun n => if n < 0 then none else some n.toNat
  (⟨flags, width.natAbs, precision?⟩, rest, p)

/-- Write what a directive of some kind makes of the next argument, if there is such a kind. -/
def direct (layout : Layout) (kind : UInt8) (p : Printing) : Option (Printing × Bool) :=
  let shown (p : Printing) (text : Bytes) : Option (Printing × Bool) := some (p.write text, false)
  match Char.ofNat kind.toNat with
  | 's' =>
    let (argument?, p) := p.next
    shown p (layout.pad (layout.cut (argument?.getD [])))
  | 'b' =>
    let (argument?, p) := p.next
    let (text, ends) := interpret (argument?.getD [])
    some (p.write (layout.pad (layout.cut text)), ends)
  | 'c' =>
    let (argument?, p) := p.next
    shown p (layout.pad [(argument?.getD []).headD 0])
  | 'd' | 'i' =>
    let (n, p) := p.nextSigned
    shown p (layout.signed n)
  | 'u' =>
    let (n, p) := p.nextUnsigned
    shown p (layout.number [] (layout.digits 10 n))
  | 'o' =>
    let (n, p) := p.nextUnsigned
    shown p (layout.octal n)
  | 'x' =>
    let (n, p) := p.nextUnsigned
    shown p (layout.hexadecimal false n)
  | 'X' =>
    let (n, p) := p.nextUnsigned
    shown p (layout.hexadecimal true n)
  | _ => none

/-- Use a format of at most so many bytes once. -/
def useUpTo : (count : Nat) → Bytes → Printing → Finish × Printing
  | 0, _, p | _, [], p => (.complete, p)
  | count + 1, 92 :: rest, p =>
    let (byte, rest) := escaped rest
    useUpTo count rest (p.write [byte])
  | count + 1, 37 :: 37 :: rest, p => useUpTo count rest (p.write [37])
  | count + 1, 37 :: rest, p =>
    let (layout, after, p) := layoutOf rest p
    match after with
    | [] => (.mistake (Text.encode "missing format character"), p)
    | kind :: after =>
      match direct layout kind p with
      | some (p, true) => (.ended, p)
      | some (p, false) => useUpTo count after p
      | none =>
        let directive := 37 :: rest.take (rest.length - after.length)
        (.mistake (directive ++ Text.encode ": invalid directive"), p)
  | count + 1, b :: rest, p => useUpTo count rest (p.write [b])

/-- Use a format until no argument is left, at most so many times. -/
def useAgain (format : Bytes) : (times : Nat) → Printing → Finish × Printing
  | 0, p => (.complete, p)
  | times + 1, p =>
    match useUpTo format.length format p with
    | (.complete, after) =>
      if after.arguments = [] ∨ after.arguments.length = p.arguments.length then (.complete, after)
      else useAgain format times after
    | finished => finished

/-- What a format makes of arguments. -/
def printed (format : Bytes) (arguments : List Bytes) : Finish × Printing :=
  useAgain format (arguments.length + 1) ⟨#[], #[], arguments, false⟩

example : (printed (Text.encode "%03d|%-3s|") [[55], [97]]).2.out.toList
    = Text.encode "007|a  |" := by decide +kernel
example : echoed true [Text.encode "a\\tb", Text.encode "c\\cd", [101]]
    = Text.encode "a\tb c" := by decide +kernel

end Orchestrator.Shell
