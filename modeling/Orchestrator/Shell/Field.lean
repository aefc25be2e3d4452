import Orchestrator.Shell.Pattern

namespace Orchestrator.Shell

/-!
# The shell — from a word to fields

When the values are put into a word, every byte remembers where it came from (`Mark`).

* `split` — the fields of a word: it is cut at the separators among the bytes that came from values.
* `Field.text`, `Field.signs` — a field as text, and as a pattern.
-/

/-- Where a byte of a word came from. -/
inductive Origin where
  /-- It stands in the word. -/
  | literal
  /-- It came from a value, and may separate fields. -/
  | value
  /-- It is quoted. -/
  | quoted
  deriving DecidableEq, Repr

/-- What a word consists of when the values are put in. -/
inductive Mark where
  | byte (b : UInt8) (origin : Origin)
  /-- Quotes, which make a field even of nothing. -/
  | presence
  /-- The end of a field, whatever separates fields. -/
  | boundary
  deriving DecidableEq, Repr

/-- Bytes of one origin. -/
def marks (origin : Origin) (bytes : Bytes) : List Mark := bytes.map (.byte · origin)

/-- A field; quoted bytes do not count as part of a pattern. -/
abbrev Field := List Sign

/-- The text of a field. -/
def Field.text (field : Field) : Bytes := field.map (·.byte)

/-- The byte of a mark as a sign. -/
def Mark.sign? : Mark → Option Sign
  | byte b origin => some ⟨b, origin != .quoted⟩
  | presence | boundary => none

/-- All of a word as one text; fields are kept apart by a space. -/
def textOf (word : List Mark) : Bytes :=
  word.flatMap fun
    | .byte b _ => [b]
    | .presence => []
    | .boundary => [32]

/-- A word as a pattern. -/
def signsOf (word : List Mark) : List Sign := word.filterMap Mark.sign?

/-! ### Splitting -/

/-- The bytes that separate fields. -/
structure Separators where
  bytes : Bytes

namespace Separators

/-- What separates fields if nothing is said about it: a space, a tab, a newline. -/
def standard : Separators := ⟨[32, 9, 10]⟩

/-- The byte is a separator that counts as one however often it is repeated. -/
def isBlank (s : Separators) (b : UInt8) : Bool :=
  s.bytes.contains b && (b == 32 || b == 9 || b == 10)

/-- The byte is a separator that ends a field, be it an empty one. -/
def isFirm (s : Separators) (b : UInt8) : Bool := s.bytes.contains b && !s.isBlank b

end Separators

/-- A field that is being read: its signs, the last one first, and whether it is one even if it has
none. -/
structure Draft where
  reversed : List Sign
  isPresent : Bool

/-- Nothing of a field was read. -/
def Draft.empty : Draft := ⟨[], false⟩

/-- The field of a draft, if it is one. -/
def Draft.fields (d : Draft) : List Field :=
  if d.reversed ≠ [] ∨ d.isPresent then [d.reversed.reverse] else []

/-- A draft with one more sign. -/
def Draft.push (d : Draft) (sign : Sign) : Draft := { d with reversed := sign :: d.reversed }

/-- The fields of the rest of a word. `ended` tells that blanks ended the field before, so that a
firm separator behind them ends no other. -/
def splitFrom (s : Separators) (draft : Draft) (ended : Bool) : List Mark → List Field
  | [] => draft.fields
  | .presence :: rest => splitFrom s { draft with isPresent := true } false rest
  | .boundary :: rest => draft.fields ++ splitFrom s .empty false rest
  | .byte b origin :: rest =>
    if origin = .value ∧ s.isBlank b then
      match draft.fields with
      | [] => splitFrom s .empty ended rest
      | fields => fields ++ splitFrom s .empty true rest
    else if origin = .value ∧ s.isFirm b then
      if ended then splitFrom s .empty false rest
      else draft.reversed.reverse :: splitFrom s .empty false rest
    else splitFrom s (draft.push ⟨b, origin != .quoted⟩) false rest

/-- The fields of a word. -/
def split (s : Separators) (word : List Mark) : List Field := splitFrom s .empty false word

example : (split ⟨[58]⟩ (marks .value (Text.encode ":a::b:"))).map Field.text
    = [[], [97], [], [98]] := by decide +kernel
example : (split .standard (marks .value (Text.encode "  a  b "))).map Field.text
    = [[97], [98]] := by decide +kernel

end Orchestrator.Shell
