import Mathlib.Data.List.Basic
import Orchestrator.Text.Blank

namespace Orchestrator.Text

/-!
# Words — what a line spells

A line spells its words, one after another, and nothing but blanks stands around them. That can be
said without cutting the line anywhere, and only the pieces that cutting finds are such words.

* `IsWord` — a piece of a line that has no blank in it, and is not empty.
* `Spells` — a line spells words: each of them stands in it, with a blank behind it or at the end.
* `words_append_blank` — a blank cuts a line, and each side has its words for itself.
* `spells_iff` — a line spells its words and no others.
* `Spells.flatten_eq` — nothing of a line is lost but its blanks.
* `spells_intercalate` — words are spelled by what they are with a blank between any two.
-/

/-- A word has something in it, and no blank. -/
structure IsWord (word : List Char) : Prop where
  some_ : word ≠ []
  whole : ∀ c ∈ word, isBlank c = false

/-- A line spells words, which stand in it in their order with nothing but blanks around them. -/
inductive Spells : List Char → List (List Char) → Prop where
  /-- Where there is nothing, no word is spelled. -/
  | nil : Spells [] []
  /-- A blank in front of a line spells nothing. -/
  | blank {b line ws} (separates : isBlank b = true) (rest : Spells line ws) : Spells (b :: line) ws
  /-- The last word may end the line. -/
  | last {word} (isWord : IsWord word) : Spells word [word]
  /-- Every other word ends at a blank. -/
  | word {word b line ws} (isWord : IsWord word) (separates : isBlank b = true)
    (rest : Spells line ws) : Spells (word ++ b :: line) (word :: ws)

variable {line word : List Char} {ws : List (List Char)} {b : Char}

/-! ### Cutting a line -/

/-- What is cut off by a blank has its words for itself, and so has the rest. -/
theorem words_append_blank (separates : isBlank b = true) (before line : List Char) :
    words (before ++ b :: line) = words before ++ words line := by
  rw [words, List.splitOnP_append_cons before line separates, List.filter_append]
  rfl

/-- A blank at the start belongs to no word. -/
theorem words_blank (separates : isBlank b = true) (line : List Char) :
    words (b :: line) = words line := words_append_blank separates [] line

/-- A word is the only one in it. -/
theorem IsWord.words_eq (h : IsWord word) : words word = [word] := by
  have single : word.splitOnP isBlank = [word] := List.splitOnP_eq_singleton h.whole
  rw [words, single]
  simp [h.some_]

/-! ### What is spelled -/

/-- A line spells its words. -/
theorem spells_words (line : List Char) : Spells line (words line) := by
  -- the induction is on the line; what stands behind its first blank is shorter
  cases first : line.find? isBlank with
  | none =>
    have whole : ∀ c ∈ line, isBlank c = false := by
      intro c mem
      simpa using List.find?_eq_none.1 first c mem
    by_cases none : line = []
    · rw [none]
      exact .nil
    · have isWord : IsWord line := ⟨none, whole⟩
      rw [isWord.words_eq]
      exact .last isWord
  | some b =>
    obtain ⟨separates, piece, rest, split, before⟩ := List.find?_eq_some_iff_append.1 first
    have whole : ∀ c ∈ piece, isBlank c = false := by
      intro c mem
      simpa using before c mem
    have shorter : rest.length < line.length := by
      rw [split, List.length_append, List.length_cons]
      omega
    have others : Spells rest (words rest) := spells_words rest
    rw [split, words_append_blank separates]
    by_cases none : piece = []
    · rw [none]
      exact .blank separates others
    · have isWord : IsWord piece := ⟨none, whole⟩
      rw [isWord.words_eq]
      exact .word isWord separates others
termination_by line.length

/-- A line spells its words and no others. -/
theorem Spells.eq_words (h : Spells line ws) : ws = words line := by
  induction h with
  | nil => rfl
  | blank separates _ ih => rw [words_blank separates, ih]
  | last isWord => exact isWord.words_eq.symm
  | word isWord separates _ ih =>
    rw [words_append_blank separates, isWord.words_eq, ih, List.singleton_append]

/-- **A line spells its words.** It spells these, and no others. -/
theorem spells_iff : Spells line ws ↔ words line = ws := by
  constructor
  · exact fun h => h.eq_words.symm
  · rintro rfl
    exact spells_words line

/-- What a line spells are words: each has a character, and none has a blank in it. -/
theorem Spells.isWord (h : Spells line ws) : ∀ word ∈ ws, IsWord word := by
  induction h with
  | nil => simp
  | blank _ _ ih => exact ih
  | last isWord => simpa using isWord
  | word isWord _ _ ih => exact List.forall_mem_cons.2 ⟨isWord, ih⟩

/-- There is no blank to be taken out of a word. -/
theorem IsWord.filter_eq (h : IsWord word) : word.filter (!isBlank ·) = word :=
  List.filter_eq_self.2 fun c mem => by simp [h.whole c mem]

/-- Nothing of a line is lost but its blanks. -/
theorem Spells.flatten_eq (h : Spells line ws) : ws.flatten = line.filter (!isBlank ·) := by
  induction h with
  | nil => rfl
  | blank separates _ ih => rw [List.filter_cons_of_neg (by simp [separates]), ih]
  | last isWord => rw [isWord.filter_eq, List.flatten_singleton]
  | word isWord separates _ ih =>
    rw [List.filter_append, isWord.filter_eq, List.filter_cons_of_neg (by simp [separates]), ← ih,
      List.flatten_cons]

/-- Only blanks spell no word. -/
theorem spells_nil_iff : Spells line [] ↔ ∀ c ∈ line, isBlank c = true := by
  constructor
  · intro h
    have lost : line.filter (!isBlank ·) = [] := h.flatten_eq.symm
    simpa using lost
  · intro blanks
    induction line with
    | nil => exact .nil
    | cons b line ih =>
      obtain ⟨separates, others⟩ := List.forall_mem_cons.1 blanks
      exact .blank separates (ih others)

/-- Words are spelled by what they are with a blank between any two. -/
theorem spells_intercalate (areWords : ∀ word ∈ ws, IsWord word) (separates : isBlank b = true) :
    Spells ([b].intercalate ws) ws := by
  induction ws with
  | nil => exact .nil
  | cons first rest ih =>
    obtain ⟨isWord, others⟩ := List.forall_mem_cons.1 areWords
    cases rest with
    | nil =>
      rw [List.intercalate_singleton]
      exact .last isWord
    | cons second rest =>
      rw [List.intercalate_cons_cons, List.append_assoc, List.singleton_append]
      exact .word isWord separates (ih others)

end Orchestrator.Text
