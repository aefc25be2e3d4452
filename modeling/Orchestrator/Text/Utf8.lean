namespace Orchestrator

/-- A byte string, the form in which files, pipes and path names hold their contents. -/
abbrev Bytes := List UInt8

namespace Text

/-!
# Text — UTF-8

Text leaves the program as UTF-8, and whatever bytes come in are read as UTF-8 without ever failing.

* `encode` — the bytes of a text.
* `decode` — the text of any byte string. A maximal run of bytes that begins a character and breaks
  off, or a byte that begins none, is read as one replacement character `U+FFFD`.
* `decode?` — the text of a byte string that is the encoding of one.

Decoding is a machine that takes one byte at a time (`Decoder.step`). A byte that cannot go on with
the character begun is read again as a first byte, so an error never swallows a byte that could
begin a character.
-/

/-- The bytes of a text. -/
def encode (s : String) : Bytes :=
  s.toList.flatMap String.utf8EncodeChar

/-- What a character begun still needs: `more + 1` bytes, the next one in `low ..= high`; `value`
holds the bits read so far. -/
structure Partial where
  more : Nat
  low : UInt8
  high : UInt8
  value : Nat
  deriving DecidableEq, Repr

/-- A first byte is a character of its own, begins a longer one, or begins none. The ranges for the
second byte keep out overlong forms, surrogates and values above `U+10FFFF`. -/
inductive Lead where
  | single (c : Char)
  | opens (p : Partial)
  | none
  deriving DecidableEq, Repr

/-- Read a first byte. -/
def lead (b : UInt8) : Lead :=
  let bits (mask : Nat) := b.toNat &&& mask
  if b < 0x80 then .single (Char.ofNat b.toNat)
  else if b < 0xC2 then .none
  else if b < 0xE0 then .opens ⟨0, 0x80, 0xBF, bits 0x1F⟩
  else if b = 0xE0 then .opens ⟨1, 0xA0, 0xBF, bits 0x0F⟩
  else if b = 0xED then .opens ⟨1, 0x80, 0x9F, bits 0x0F⟩
  else if b < 0xF0 then .opens ⟨1, 0x80, 0xBF, bits 0x0F⟩
  else if b = 0xF0 then .opens ⟨2, 0x90, 0xBF, bits 0x07⟩
  else if b < 0xF4 then .opens ⟨2, 0x80, 0xBF, bits 0x07⟩
  else if b = 0xF4 then .opens ⟨2, 0x80, 0x8F, bits 0x07⟩
  else .none

/-- The character that stands for bytes that are no character. -/
def replacement : Char := '\uFFFD'

/-- The text read so far and the character that is being read. -/
structure Decoder where
  done : Array Char
  pending : Option Partial
  deriving DecidableEq, Repr

namespace Decoder

/-- Nothing read yet. -/
def start : Decoder := ⟨#[], none⟩

/-- Read a byte where a character may begin. -/
def first (done : Array Char) (b : UInt8) : Decoder :=
  match lead b with
  | .single c => ⟨done.push c, none⟩
  | .opens p => ⟨done, some p⟩
  | .none => ⟨done.push replacement, none⟩

/-- Read one byte. -/
def step (d : Decoder) (b : UInt8) : Decoder :=
  match d.pending with
  | none => first d.done b
  | some p =>
    if p.low ≤ b && b ≤ p.high then
      let value := p.value * 64 + (b.toNat &&& 0x3F)
      match p.more with
      | 0 => ⟨d.done.push (Char.ofNat value), none⟩
      | n + 1 => ⟨d.done, some ⟨n, 0x80, 0xBF, value⟩⟩
    else first (d.done.push replacement) b

/-- The input ends: a character that breaks off is one replacement character. -/
def finish (d : Decoder) : Array Char :=
  match d.pending with
  | none => d.done
  | some _ => d.done.push replacement

end Decoder

/-- The characters of a byte string. -/
def chars (bytes : Bytes) : List Char :=
  (bytes.foldl Decoder.step Decoder.start).finish.toList

/-- The text of a byte string. -/
def decode (bytes : Bytes) : String :=
  String.ofList (chars bytes)

/-- The text whose encoding a byte string is. -/
def decode? (bytes : Bytes) : Option String :=
  let text := decode bytes
  if encode text = bytes then some text else none

@[simp] theorem toList_decode (bytes : Bytes) : (decode bytes).toList = chars bytes := by
  simp [decode]

@[simp] theorem chars_nil : chars [] = [] := rfl

end Text

end Orchestrator
