import Mathlib.Data.List.Basic
import Orchestrator.Text.Lines

namespace Orchestrator.Text

/-!
# Lines — a stream is the sum of its lines

Cutting a stream at its newlines loses nothing: the lines, each with a newline behind it again, are
the stream, and no other lines are.

* `lines_cons`, `lines_of_notMem` — the lines of a stream, told from its first newline on.
* `linewise` — induction on a stream, one line after another.
* `AtLineStart` — what is written behind a stream starts a line.
* `ended` — a stream with a newline at its end.
* `AreLines` — what it is to be the lines of a stream.
* `areLines_iff` — only the lines of a stream are.
-/

/-! ### One line after another -/

/-- A stream without a newline is one line, unless there is nothing in it. -/
theorem lines_of_notMem {line : Bytes} (whole : newline ∉ line) :
    lines line = if line = [] then [] else [line] := by
  have single : line.splitOn newline = [line] := List.splitOn_eq_singleton whole
  simp only [lines, single, List.getLast?_singleton, List.dropLast_singleton, Option.some.injEq]

/-- What stands before the first newline is the first line, and the rest has the others. -/
theorem lines_cons {line : Bytes} (whole : newline ∉ line) (rest : Bytes) :
    lines (line ++ newline :: rest) = line :: lines rest := by
  have single : line.splitOn newline = [line] := List.splitOn_eq_singleton whole
  have cut : (line ++ newline :: rest).splitOn newline = line :: rest.splitOn newline := by
    rw [List.splitOn_append_cons_self, single, List.singleton_append]
  have some_ : rest.splitOn newline ≠ [] := List.splitOn_ne_nil _ _
  obtain ⟨first, others, pieces⟩ := List.exists_cons_of_ne_nil some_
  simp only [lines, cut, pieces, List.getLast?_cons_cons, List.dropLast_cons_cons]
  split <;> rfl

/-- Induction on a stream, one line after another. -/
@[elab_as_elim]
theorem linewise {P : Bytes → Prop} (last : ∀ line, newline ∉ line → P line)
    (more : ∀ line rest, newline ∉ line → P rest → P (line ++ newline :: rest))
    (stream : Bytes) : P stream := by
  by_cases cut : newline ∈ stream
  · obtain ⟨line, rest, split, whole⟩ := List.eq_append_cons_of_mem cut
    have shorter : rest.length < stream.length := by
      rw [split, List.length_append, List.length_cons]
      omega
    rw [split]
    exact more line rest whole (linewise last more rest)
  · exact last stream cut
termination_by stream.length

/-! ### Starts of lines -/

/-- What is written behind a stream starts a line: there is nothing in it, or it ends with a
newline. -/
def AtLineStart (stream : Bytes) : Prop := stream = [] ∨ stream.getLast? = some newline

instance : DecidablePred AtLineStart := fun _ => inferInstanceAs (Decidable (_ ∨ _))

theorem atLineStart_nil : AtLineStart [] := .inl rfl

/-- Behind a line that is not ended yet no line starts. -/
theorem not_atLineStart_of_notMem {line : Bytes} (whole : newline ∉ line) (some_ : line ≠ []) :
    ¬AtLineStart line :=
  not_or.2 ⟨some_, fun ends => whole (List.mem_of_getLast? ends)⟩

/-- Only the last stream that has something in it counts. -/
theorem AtLineStart.append_of_ne_nil {stream : Bytes} (h : AtLineStart stream)
    (some_ : stream ≠ []) (before : Bytes) : AtLineStart (before ++ stream) := by
  refine .inr ?_
  rw [List.getLast?_append_of_ne_nil _ some_]
  exact h.resolve_left some_

/-- Of two streams that both end with a line, so does the one behind the other. -/
theorem AtLineStart.append {before stream : Bytes} (h : AtLineStart before)
    (h' : AtLineStart stream) : AtLineStart (before ++ stream) := by
  by_cases none : stream = []
  · rwa [none, List.append_nil]
  · exact h'.append_of_ne_nil none before

/-- What comes before a newline has no say. -/
theorem atLineStart_line_append {line rest : Bytes} :
    AtLineStart (line ++ newline :: rest) ↔ AtLineStart rest := by
  rcases rest.eq_nil_or_concat with rfl | ⟨init, last, rfl⟩
  · simp [AtLineStart]
  · -- the last byte is the same with and without the line
    have ends : (line ++ newline :: (init ++ [last])).getLast? = some last := by
      rw [← List.cons_append, ← List.append_assoc, List.getLast?_concat]
    simp only [List.concat_eq_append, AtLineStart, ends, List.getLast?_concat]
    simp

/-- Streams that each end with a line can follow one another: the last line is ended. -/
theorem atLineStart_flatMap {α : Type} {streams : α → Bytes} {pieces : List α}
    (h : ∀ piece ∈ pieces, AtLineStart (streams piece)) : AtLineStart (pieces.flatMap streams) := by
  induction pieces with
  | nil => exact atLineStart_nil
  | cons piece rest ih =>
    obtain ⟨first, others⟩ := List.forall_mem_cons.1 h
    exact first.append (ih others)

/-! ### All lines -/

/-- A stream with a newline at its end; one in which there is nothing needs none. -/
def ended (stream : Bytes) : Bytes :=
  if AtLineStart stream then stream else stream ++ [newline]

@[simp] theorem ended_nil : ended [] = [] := if_pos (.inl rfl)

/-- A line that is not ended gets its newline. -/
theorem ended_of_notMem {line : Bytes} (whole : newline ∉ line) (some_ : line ≠ []) :
    ended line = line ++ [newline] :=
  if_neg (not_atLineStart_of_notMem whole some_)

/-- The lines before the last stay as they are. -/
theorem ended_append (line rest : Bytes) :
    ended (line ++ newline :: rest) = line ++ newline :: ended rest := by
  by_cases start : AtLineStart rest
  · rw [ended, ended, if_pos start, if_pos (atLineStart_line_append.2 start)]
  · rw [ended, ended, if_neg start, if_neg (mt atLineStart_line_append.1 start), List.append_assoc,
      List.cons_append]

/-- The pieces are the lines of a stream: none of them has a newline in it, and with a newline
behind each they are the stream, with a newline at its end. -/
structure AreLines (pieces : List Bytes) (stream : Bytes) : Prop where
  whole : ∀ piece ∈ pieces, newline ∉ piece
  all : pieces.flatMap (· ++ [newline]) = ended stream

/-- Cutting a stream at its newlines yields its lines. -/
theorem areLines_lines (stream : Bytes) : AreLines (lines stream) stream := by
  induction stream using linewise with
  | last line whole =>
    rw [lines_of_notMem whole]
    by_cases none : line = []
    · subst none
      exact ⟨by simp, by simp⟩
    · rw [if_neg none]
      refine ⟨by simpa using whole, ?_⟩
      rw [List.flatMap_singleton, ended_of_notMem whole none]
  | more line rest whole ih =>
    rw [lines_cons whole]
    refine ⟨List.forall_mem_cons.2 ⟨whole, ih.whole⟩, ?_⟩
    rw [List.flatMap_cons, ih.all, ended_append, List.append_assoc, List.singleton_append]

/-- Only where there is nothing there is no line. -/
theorem lines_eq_nil_iff {stream : Bytes} : lines stream = [] ↔ stream = [] := by
  induction stream using linewise with
  | last line whole =>
    rw [lines_of_notMem whole]
    split <;> simp [*]
  | more line rest whole => simp [lines_cons whole]

/-- Pieces without a newline can be told from what they are with a newline behind each. -/
theorem eq_of_flatMap_ended {pieces pieces' : List Bytes}
    (whole : ∀ piece ∈ pieces, newline ∉ piece) (whole' : ∀ piece ∈ pieces', newline ∉ piece)
    (same : pieces.flatMap (· ++ [newline]) = pieces'.flatMap (· ++ [newline])) :
    pieces = pieces' := by
  have cut {pieces : List Bytes} (whole : ∀ piece ∈ pieces, newline ∉ piece) :
      lines (pieces.flatMap (· ++ [newline])) = pieces := by
    induction pieces with
    | nil => exact lines_nil
    | cons first rest ih =>
      obtain ⟨first_, rest_⟩ := List.forall_mem_cons.1 whole
      rw [List.flatMap_cons, List.append_assoc, List.singleton_append, lines_cons first_, ih rest_]
  rw [← cut whole, same, cut whole']

/-- **Only the lines of a stream are its lines.** -/
theorem areLines_iff {pieces : List Bytes} {stream : Bytes} :
    AreLines pieces stream ↔ pieces = lines stream := by
  constructor
  · intro h
    have known := areLines_lines stream
    exact eq_of_flatMap_ended h.whole known.whole (h.all.trans known.all.symm)
  · rintro rfl
    exact areLines_lines stream

end Orchestrator.Text
