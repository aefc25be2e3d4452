import Orchestrator.Text.Utf8

namespace Orchestrator.Text

/-!
# Text — lines of a byte stream

* `lines` — a stream cut at its newline bytes. The newline ends its line and belongs to none, and
  bytes after the last newline are a line of their own, so a stream that ends with a newline has no
  empty last line.
* `isGap` — the bytes that stand between the words of a line.
-/

/-- The byte that ends a line. -/
def newline : UInt8 := 10

/-- A space or a tab. -/
def isGap (b : UInt8) : Bool := b == 32 || b == 9

/-- The lines of a stream. -/
def lines (stream : Bytes) : List Bytes :=
  let pieces := stream.splitOn newline
  if pieces.getLast? = some [] then pieces.dropLast else pieces

@[simp] theorem lines_nil : lines [] = [] := by decide

end Orchestrator.Text
