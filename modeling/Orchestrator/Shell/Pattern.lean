import Orchestrator.FileSystem.Query
import Orchestrator.Shell.Syntax

namespace Orchestrator.Shell

/-!
# The shell — patterns

* `Sign` — a byte of a pattern; a quoted one stands for itself.
* `Atom` — what a pattern asks for at one place of a text.
* `Pattern.ofSigns`, `Pattern.matches` — reading a pattern, and comparing a text with it.
* `Pattern.trim` — a text without the match of a pattern on one side.
* `pathnames` — the paths that fit a pattern.
-/

/-- A byte of a pattern; an active one may have a meaning of its own. -/
structure Sign where
  byte : UInt8
  isActive : Bool
  deriving DecidableEq, Repr

/-- A set of bytes: those between two bytes, or those of a kind. -/
inductive Class where
  | range (first last : UInt8)
  | kind (test : UInt8 → Bool)

/-- The byte is in the class. -/
def Class.contains : Class → UInt8 → Bool
  | range first last, b => first ≤ b && b ≤ last
  | kind test, b => test b

/-- What a pattern asks for. -/
inductive Atom where
  | exactly (byte : UInt8)
  | anyByte
  | anyText
  /-- A byte in one of the classes, or in none. -/
  | among (isNegated : Bool) (classes : List Class)

namespace Atom

/-- The atom stands for a byte. -/
def accepts : Atom → UInt8 → Bool
  | exactly byte, b => byte == b
  | anyByte, _ => true
  | anyText, _ => false
  | among isNegated classes, b => classes.any (·.contains b) != isNegated

end Atom

/-- A pattern. -/
abbrev Pattern := List Atom

namespace Pattern

/-- Kinds of bytes by name. -/
def kinds : List (String × (UInt8 → Bool)) :=
  let lower b := 97 ≤ b && b ≤ 122
  let upper b := 65 ≤ b && b ≤ 90
  let digit b := 48 ≤ b && b ≤ 57
  let graph b := 33 ≤ b && b ≤ 126
  let alpha b := lower b || upper b
  [("lower", lower), ("upper", upper), ("digit", digit), ("alpha", alpha),
    ("alnum", fun b => alpha b || digit b), ("graph", graph),
    ("print", fun b => graph b || b == 32), ("blank", fun b => b == 32 || b == 9),
    ("space", fun b => b == 32 || (9 ≤ b && b ≤ 13)),
    ("punct", fun b => graph b && !(alpha b || digit b)),
    ("cntrl", fun b => b < 32 || b == 127),
    ("xdigit", fun b => digit b || (65 ≤ b && b ≤ 70) || (97 ≤ b && b ≤ 102))]

/-- The kind of bytes that is named behind `[:`, and what follows it. -/
def kind? (signs : List Sign) : Option ((UInt8 → Bool) × List Sign) :=
  let bytes := signs.map (·.byte)
  kinds.findSome? fun (name, test) =>
    let spelled := Text.encode (name ++ ":]")
    if spelled.isPrefixOf bytes then some (test, signs.drop spelled.length) else none

/-- The classes up to a closing bracket, and what follows it. A bracket that comes first is one of
the bytes. -/
def classes? : (fuel : Nat) → (isFirst : Bool) → List Sign → Option (List Class × List Sign)
  | 0, _, _ | _, _, [] => none
  | fuel + 1, isFirst, sign :: rest =>
    let single (rest : List Sign) :=
      (classes? fuel false rest).map fun (classes, after) =>
        (.range sign.byte sign.byte :: classes, after)
    if sign = ⟨93, true⟩ ∧ !isFirst then some ([], rest)
    else
      match sign, rest with
      | ⟨91, true⟩, ⟨58, true⟩ :: named =>
        match kind? named with
        | some (test, rest) =>
          (classes? fuel false rest).map fun (classes, after) => (.kind test :: classes, after)
        | none => single rest
      | _, ⟨45, true⟩ :: last :: more =>
        if last = ⟨93, true⟩ then single rest
        else
          (classes? fuel false more).map fun (classes, after) =>
            (.range sign.byte last.byte :: classes, after)
      | _, _ => single rest

/-- What stands between brackets, and what follows. -/
def bracket? (signs : List Sign) : Option (Atom × List Sign) :=
  let (isNegated, inner) :=
    match signs with
    | ⟨33, true⟩ :: rest => (true, rest)
    | _ => (false, signs)
  (classes? (signs.length + 1) true inner).map fun (classes, rest) =>
    (.among isNegated classes, rest)

/-- Read a pattern of at most so many signs. -/
def ofSignsUpTo : (count : Nat) → List Sign → Pattern
  | 0, _ | _, [] => []
  | count + 1, sign :: rest =>
    match sign with
    | ⟨42, true⟩ => .anyText :: ofSignsUpTo count rest
    | ⟨63, true⟩ => .anyByte :: ofSignsUpTo count rest
    | ⟨91, true⟩ =>
      match bracket? rest with
      | some (atom, rest) => atom :: ofSignsUpTo count rest
      | none => .exactly 91 :: ofSignsUpTo count rest
    | ⟨92, true⟩ =>
      match rest with
      | escaped :: rest => .exactly escaped.byte :: ofSignsUpTo count rest
      | [] => [.exactly 92]
    | ⟨byte, _⟩ => .exactly byte :: ofSignsUpTo count rest

/-- The pattern that signs spell. -/
def ofSigns (signs : List Sign) : Pattern := ofSignsUpTo signs.length signs

/-- What is left of a text behind each of its places, from the first on. -/
def suffixes : Bytes → List Bytes
  | [] => [[]]
  | b :: rest => (b :: rest) :: suffixes rest

/-- The whole text fits the pattern. -/
def isMatch : Pattern → Bytes → Bool
  | [], text => text.isEmpty
  | .anyText :: rest, text => (suffixes text).any (isMatch rest)
  | _ :: _, [] => false
  | atom :: rest, b :: text => atom.accepts b && isMatch rest text

/-- A text up to its first zero byte, if it has one. -/
def untilZero (text : Bytes) : Bytes := text.takeWhile (· != 0)

/-- The places of a text from which a match may go to its end, in the order in which they are tried.
If the longest one is asked for, only the places up to a zero byte are. -/
def starts (longest : Bool) (text : Bytes) : List Nat :=
  if longest then List.range ((untilZero text).length + 1)
  else (List.range (text.length + 1)).reverse

/-- The places of a text to which a match may go from its beginning, in the order in which they are
tried. -/
def ends (longest : Bool) (text : Bytes) : List Nat :=
  let places := List.range (text.length + 1)
  if longest then places.reverse else places

/-- A text without the shortest or the longest match of a pattern on one side. A match goes up to a
zero byte at most, but all behind it is cut off with it. -/
def trim (pattern : Pattern) (side : Side) (longest : Bool) (text : Bytes) : Bytes :=
  let fits (part : Bytes) : Bool := isMatch pattern (untilZero part)
  match side with
  | .front => (((ends longest text).find? fun n => fits (text.take n)).map text.drop).getD text
  | .back => (((starts longest text).find? fun n => fits (text.drop n)).map text.take).getD text

example : isMatch (ofSigns ((Text.encode "a*[b-d]").map (⟨·, true⟩))) (Text.encode "axxc") := by
  decide +kernel
example : ¬ isMatch (ofSigns ((Text.encode "a*").map (⟨·, false⟩))) (Text.encode "axxc") := by
  decide +kernel

end Pattern

/-! ### Paths -/

/-- A pattern asks for more than one text. -/
def isOpen (signs : List Sign) : Bool :=
  signs.any fun sign => sign.isActive && (Text.encode "*?[").contains sign.byte

/-- The paths that begin with `before` and go on with names that fit the parts of a pattern. A name
that begins with a dot is asked for by its dot. -/
def pathnamesFrom {π : Type} (files : FileSystem π) (start : Place) :
    (before : Bytes) → List (List Sign) → List Bytes
  | before, [] =>
    match files.resolve start .keep ⟨before⟩ with
    | .ok (.free _ _) | .error _ => []
    | .ok _ => [before]
  | before, part :: rest =>
    let goOn (name : Bytes) :=
      match rest with
      | [] => pathnamesFrom files start (before ++ name) []
      | rest => pathnamesFrom files start (before ++ name ++ [Path.slash]) rest
    if isOpen part then
      let directory : Path := if before = [] then ⟨Path.dot⟩ else ⟨before⟩
      let names := Path.dot :: Path.dotDot :: (files.list start directory).toOption.getD []
      let wanted name :=
        (name.head? != some 46 || (part.head?.map (·.byte)) == some 46)
          && Pattern.isMatch (.ofSigns part) name
      (names.filter wanted).flatMap goOn
    else goOn (part.map (·.byte))

/-- The paths that fit a pattern, in ascending order. -/
def pathnames {π : Type} (files : FileSystem π) (start : Place) (signs : List Sign) :
    List Bytes :=
  let parts := signs.splitOnP fun sign => sign.byte == Path.slash
  (pathnamesFrom files start [] parts).mergeSort fun a b => !decide (b < a)

end Orchestrator.Shell
