namespace Orchestrator.Text

/-!
# Text — blanks and words

A command typed on one line is a list of words with blanks between them. This file fixes what a
blank is and how a line falls into words.

* `isBlank` — the characters with the Unicode property `White_Space`.
* `words` — the maximal runs of characters that are not blank, in order.
-/

/-- The code points with the Unicode property `White_Space`, as closed ranges in ascending order. -/
def blankRanges : List (Nat × Nat) :=
  [(0x0009, 0x000D), (0x0020, 0x0020), (0x0085, 0x0085), (0x00A0, 0x00A0), (0x1680, 0x1680),
    (0x2000, 0x200A), (0x2028, 0x2029), (0x202F, 0x202F), (0x205F, 0x205F), (0x3000, 0x3000)]

/-- A blank separates words and belongs to none. -/
def isBlank (c : Char) : Bool :=
  blankRanges.any fun (low, high) => low ≤ c.toNat && c.toNat ≤ high

/-- The words of a line: what is left between blanks, without the empty pieces. -/
def words (line : List Char) : List (List Char) :=
  (line.splitOnP isBlank).filter (!·.isEmpty)

end Orchestrator.Text
