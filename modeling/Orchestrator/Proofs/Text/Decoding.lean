import Orchestrator.Proofs.Text.Lines
import Orchestrator.Proofs.Text.Utf8

namespace Orchestrator.Text

/-!
# Decoding — one line after another

A plain byte goes on with no character that was begun. So whatever stands before one is read to its
end there, and what stands behind it is read as if it were all there is.

* `Decoder.step_behind` — what was read before has no say in what is read next.
* `Decoder.step_plain` — a plain byte ends what was begun, and is read as its own character.
* `decode_append_plain` — decoding may be cut at any plain byte.
* `join_decode_lines` — a stream that is decoded line by line is decoded as a whole.
-/

namespace Decoder

variable {d : Decoder} {b : UInt8}

/-! ### What was read before -/

/-- The same character is being read, and other characters were read before. -/
def behind (done : Array Char) (d : Decoder) : Decoder := ⟨done ++ d.done, d.pending⟩

/-- What was read before has no say in how a first byte is read. -/
theorem first_behind (done more : Array Char) (b : UInt8) :
    first (done ++ more) b = (first more b).behind done := by
  unfold first behind
  split <;> simp

/-- What was read before has no say in what is read next. -/
theorem step_behind (done : Array Char) (d : Decoder) (b : UInt8) :
    (d.behind done).step b = (d.step b).behind done := by
  obtain ⟨more, _ | p⟩ := d
  · exact first_behind done more b
  · simp only [step, behind]
    split
    · cases p.more <;> simp
    · rw [← Array.append_push, first_behind]
      rfl

/-- What was read before has no say in what the rest of a stream is read as. -/
theorem foldl_behind (done : Array Char) (d : Decoder) (bytes : Bytes) :
    bytes.foldl step (d.behind done) = (bytes.foldl step d).behind done := by
  induction bytes generalizing d with
  | nil => rfl
  | cons b rest ih => rw [List.foldl_cons, step_behind, ih, List.foldl_cons]

/-- At the end of a stream, what was read before stands in front. -/
theorem finish_behind (done : Array Char) (d : Decoder) :
    (d.behind done).finish = done ++ d.finish := by
  obtain ⟨more, _ | p⟩ := d <;> simp [finish, behind]

/-! ### Plain bytes -/

/-- No plain byte goes on with the character that is being read. -/
def RefusesPlain (d : Decoder) : Prop := ∀ p, d.pending = some p → 0x80 ≤ p.low.toNat

/-- Where no character is begun, no byte goes on with one. -/
theorem refusesPlain_none (done : Array Char) : RefusesPlain ⟨done, none⟩ := by
  intro p pending
  cases pending

/-- A byte that begins a longer character asks for others that are not plain. -/
theorem refusesPlain_first (done : Array Char) (b : UInt8) : (first done b).RefusesPlain := by
  have fits := fits_lead b
  unfold first
  cases read : lead b with
  | opens p =>
    rintro _ ⟨⟩
    rw [read] at fits
    simp only [Lead.Fits, decide_eq_true_eq] at fits
    exact fits.1
  | single c => exact refusesPlain_none _
  | none => exact refusesPlain_none _

/-- Whatever byte was read last, no plain one goes on with its character. -/
theorem refusesPlain_step (d : Decoder) (b : UInt8) : (d.step b).RefusesPlain := by
  obtain ⟨done, _ | p⟩ := d
  · exact refusesPlain_first done b
  · simp only [step]
    split
    · cases p.more with
      | zero => exact refusesPlain_none _
      | succ more =>
        rintro _ ⟨⟩
        exact Nat.le_refl _
    · exact refusesPlain_first _ b

/-- Whatever was read, no plain byte goes on with the character that was begun. -/
theorem refusesPlain_foldl (bytes : Bytes) : (bytes.foldl step start).RefusesPlain := by
  rcases bytes.eq_nil_or_concat with rfl | ⟨init, last, rfl⟩
  · exact refusesPlain_none _
  · rw [List.concat_eq_append, List.foldl_append]
    exact refusesPlain_step _ last

/-- A plain byte ends what was begun, and is read as its own character. -/
theorem step_plain (refuses : d.RefusesPlain) (plain : b.toNat < 0x80) :
    d.step b = ⟨d.finish.push (Char.ofNat b.toNat), none⟩ := by
  have own : lead b = .single (Char.ofNat b.toNat) := by
    have less : b < 0x80 := UInt8.lt_iff_toNat_lt.2 plain
    simp [lead, less]
  obtain ⟨done, _ | p⟩ := d
  · simp only [step, first, own, finish]
  · have low := refuses p rfl
    -- the byte is not in the range, so what was begun is given up
    have outside : (p.low ≤ b && b ≤ p.high) = false := by
      rw [Bool.and_eq_false_iff, decide_eq_false_iff_not, UInt8.le_iff_toNat_le]
      omega
    simp only [step, outside, Bool.false_eq_true, if_false, first, own, finish]

end Decoder

/-! ### Cutting -/

/-- Reading may be cut at any plain byte. -/
theorem chars_append_plain (before : Bytes) {b : UInt8} (plain : b.toNat < 0x80) (rest : Bytes) :
    chars (before ++ b :: rest) = chars before ++ Char.ofNat b.toNat :: chars rest := by
  let done := (before.foldl Decoder.step .start).finish.push (Char.ofNat b.toNat)
  have cut : (before.foldl Decoder.step .start).step b = Decoder.start.behind done :=
    Decoder.step_plain (Decoder.refusesPlain_foldl before) plain
  rw [chars, List.foldl_append, List.foldl_cons, cut, Decoder.foldl_behind, Decoder.finish_behind,
    Array.toList_append, Array.toList_push, List.append_assoc, List.singleton_append]
  rfl

/-- Decoding may be cut at any plain byte. -/
theorem decode_append_plain (before : Bytes) {b : UInt8} (plain : b.toNat < 0x80) (rest : Bytes) :
    decode (before ++ b :: rest)
      = decode before ++ String.singleton (Char.ofNat b.toNat) ++ decode rest := by
  refine String.toList_inj.1 ?_
  simp [chars_append_plain before plain rest]

/-- Decoding may be cut at a newline. -/
theorem decode_append_newline (before rest : Bytes) :
    decode (before ++ newline :: rest) = decode before ++ "\n" ++ decode rest :=
  decode_append_plain before (by decide) rest

/-- A newline in the middle of a character leaves two pieces that are none. -/
example : decode [0xC3, newline, 0xA9] = "\uFFFD\n\uFFFD" := by decide

/-- **Line by line, and as a whole.** A stream that is decoded line by line, with a newline behind
each line, is decoded as it is, but for a newline behind a last line that has none. -/
theorem join_decode_lines (stream : Bytes) :
    String.join ((lines stream).map fun line => decode line ++ "\n") =
      if AtLineStart stream then decode stream else decode stream ++ "\n" := by
  induction stream using linewise with
  | last line whole =>
    rw [lines_of_notMem whole]
    by_cases none : line = []
    · subst none
      rfl
    · rw [if_neg none, if_neg (not_atLineStart_of_notMem whole none)]
      simp
  | more line rest whole ih =>
    -- a newline is a plain byte, so decoding may be cut there
    rw [lines_cons whole, List.map_cons, String.join_cons, ih, decode_append_newline]
    simp only [atLineStart_line_append]
    split <;> simp [String.append_assoc]

end Orchestrator.Text
