import Orchestrator.Text.Utf8

namespace Orchestrator.Text

/-!
# Text — what is written is read again

* `Decoder.step_more` — a further byte of a character brings six more bits of it.
* `Decoder.foldl_encodeChar` — the bytes of a character are read as this character.
* `decode_encode` — the bytes of a text are read as this text.
* `IsText` — the bytes of some text (`isText_iff`). Of these nothing is lost when they are read.
* `mem_of_mem_encode_decode` — whatever bytes are read, no plain byte comes from them that was not
  there.
-/

@[simp] theorem encode_empty : encode "" = [] := rfl

/-- A text is encoded piece by piece. -/
@[simp] theorem encode_append (s t : String) : encode (s ++ t) = encode s ++ encode t := by
  simp [encode]

/-! ### First bytes -/

/-- A byte of the ASCII range is a character of its own. -/
theorem lead_one : ∀ n < 128, lead (.ofNat n) = .single (Char.ofNat n) := by decide

/-- These bytes open a character of two bytes. -/
theorem lead_two : ∀ n < 32, 2 ≤ n → lead (.ofNat (n + 0xC0)) = .opens ⟨0, 0x80, 0xBF, n⟩ := by
  decide

/-- These bytes open a character of three bytes. After the first and the fourteenth of them the next
byte has a smaller range. -/
theorem lead_three : ∀ n < 16, lead (.ofNat (n + 0xE0)) =
    .opens ⟨1, if n = 0 then 0xA0 else 0x80, if n = 13 then 0x9F else 0xBF, n⟩ := by decide

/-- These bytes open a character of four bytes. After the first and the last of them the next byte
has a smaller range. -/
theorem lead_four : ∀ n < 5, lead (.ofNat (n + 0xF0)) =
    .opens ⟨2, if n = 0 then 0x90 else 0x80, if n = 4 then 0x8F else 0xBF, n⟩ := by decide

namespace Decoder

/-! ### Characters -/

/-- A further byte of a character brings six more bits of it. -/
theorem step_more (done : Array Char) (more : Nat) {low high : UInt8} (value : Nat) {n : Nat}
    (six : n < 64) (least : low.toNat ≤ n + 0x80) (most : n + 0x80 ≤ high.toNat) :
    step ⟨done, some ⟨more, low, high, value⟩⟩ (.ofNat (n + 0x80)) =
      match more with
      | 0 => ⟨done.push (Char.ofNat (value * 64 + n)), none⟩
      | more + 1 => ⟨done, some ⟨more, 0x80, 0xBF, value * 64 + n⟩⟩ := by
  have byte : (UInt8.ofNat (n + 0x80)).toNat = n + 0x80 :=
    UInt8.toNat_ofNat_of_lt' (by rw [UInt8.size]; omega)
  have bits : (n + 0x80) &&& 0x3F = n := by
    rw [Nat.and_two_pow_sub_one_eq_mod _ 6]
    omega
  have within : (low ≤ UInt8.ofNat (n + 0x80) && UInt8.ofNat (n + 0x80) ≤ high) = true := by
    simp only [Bool.and_eq_true, decide_eq_true_eq, UInt8.le_iff_toNat_le, byte]
    exact ⟨least, most⟩
  simp only [step, within, byte, bits]
  cases more <;> rfl

/-- All bytes behind the second one are of one kind. -/
theorem step_tail (done : Array Char) (more value : Nat) {n : Nat} (six : n < 64) :
    step ⟨done, some ⟨more, 0x80, 0xBF, value⟩⟩ (.ofNat (n + 0x80)) =
      match more with
      | 0 => ⟨done.push (Char.ofNat (value * 64 + n)), none⟩
      | more + 1 => ⟨done, some ⟨more, 0x80, 0xBF, value * 64 + n⟩⟩ :=
  step_more done more value six (by simp) (by simp; omega)

/-- A first byte of a longer character begins one. -/
theorem step_opens (done : Array Char) {b : UInt8} {p : Partial} (opens : lead b = .opens p) :
    step ⟨done, none⟩ b = ⟨done, some p⟩ := by
  simp only [step, first, opens]

/-- The bytes of a character are read as this character. -/
theorem foldl_encodeChar (done : Array Char) (c : Char) :
    (String.utf8EncodeChar c).foldl step ⟨done, none⟩ = ⟨done.push c, none⟩ := by
  have valid : c.val.toNat < 0xD800 ∨ 0xDFFF < c.val.toNat ∧ c.val.toNat < 0x110000 := c.valid
  have same : Char.ofNat c.val.toNat = c := Char.ofNat_toNat c
  simp only [String.utf8EncodeChar]
  generalize c.val.toNat = n at valid same
  subst same
  -- what is read so far is the number of the character without its last bits
  split
  · simp only [List.foldl_cons, List.foldl_nil, step, first, lead_one n (by omega)]
  split
  · have whole : n / 64 % 0x20 * 64 + n % 0x40 = n := by omega
    have opens := lead_two (n / 64 % 0x20) (by omega) (by omega)
    simp only [List.foldl_cons, List.foldl_nil, step_opens done opens]
    rw [step_tail done 0 _ (by omega), whole]
  split
  · have whole : (n / 4096 % 0x10 * 64 + n / 64 % 0x40) * 64 + n % 0x40 = n := by omega
    have opens := lead_three (n / 4096 % 0x10) (by omega)
    simp only [List.foldl_cons, List.foldl_nil, step_opens done opens]
    rw [step_more done 1 _ (by omega) (by split <;> simp; omega) (by split <;> simp <;> omega),
      step_tail done 0 _ (by omega), whole]
  · have whole : ((n / 262144 % 0x08 * 64 + n / 4096 % 0x40) * 64 + n / 64 % 0x40) * 64 + n % 0x40
        = n := by omega
    have opens := lead_four (n / 262144 % 0x08) (by omega)
    simp only [List.foldl_cons, List.foldl_nil, step_opens done opens]
    rw [step_more done 2 _ (by omega) (by split <;> simp; omega) (by split <;> simp <;> omega),
      step_tail done 1 _ (by omega), step_tail done 0 _ (by omega), whole]

/-- Between two characters the decoder takes in what characters are encoded as, and gives just
these. -/
theorem foldl_encode (done : Array Char) (cs : List Char) :
    (cs.flatMap String.utf8EncodeChar).foldl step ⟨done, none⟩ = ⟨done ++ cs.toArray, none⟩ := by
  induction cs generalizing done with
  | nil => simp
  | cons c cs ih =>
    rw [List.flatMap_cons, List.foldl_append, foldl_encodeChar, ih]
    simp

end Decoder

/-! ### Texts -/

/-- What a text is encoded as decodes to its characters. -/
theorem chars_encode (s : String) : chars (encode s) = s.toList := by
  rw [chars, encode, Decoder.start, Decoder.foldl_encode]
  simp [Decoder.finish]

/-- **What is written is read again.** The bytes of a text are read as this text. -/
@[simp] theorem decode_encode (s : String) : decode (encode s) = s := by
  rw [decode, chars_encode, String.ofList_toList]

/-- Different texts are encoded differently. -/
theorem encode_inj {s t : String} : encode s = encode t ↔ s = t := by
  constructor
  · intro same
    rw [← decode_encode s, same, decode_encode]
  · exact congrArg encode

/-- The bytes are those of a text. -/
def IsText (bytes : Bytes) : Prop := encode (decode bytes) = bytes

instance : DecidablePred IsText := fun _ => inferInstanceAs (Decidable (_ = _))

/-- Bytes are text just if they are what some text is encoded as. -/
theorem isText_iff {bytes : Bytes} : IsText bytes ↔ ∃ s, bytes = encode s := by
  constructor
  · exact fun h => ⟨_, h.symm⟩
  · rintro ⟨s, rfl⟩
    rw [IsText, decode_encode]

/-- Text after text is text. -/
theorem IsText.append {bytes more : Bytes} (h : IsText bytes) (h' : IsText more) :
    IsText (bytes ++ more) := by
  obtain ⟨s, rfl⟩ := isText_iff.1 h
  obtain ⟨t, rfl⟩ := isText_iff.1 h'
  exact isText_iff.2 ⟨s ++ t, (encode_append s t).symm⟩

/-! ### Plain characters

A byte below 128 is a character of its own. No such character comes from other bytes, neither from
those of a longer character nor from those of none. -/

/-- The character begun will be none that a single byte stands for, whatever the bytes are that it
still needs. -/
def Partial.IsLong (p : Partial) : Prop :=
  0x80 ≤ p.low.toNat ∧ p.high.toNat ≤ 0xBF ∧
    (if p.more = 0 then 0x80 else 2) ≤ p.value * 64 + (p.low.toNat - 0x80)

instance : DecidablePred Partial.IsLong := fun _ => inferInstanceAs (Decidable (_ ∧ _ ∧ _))

/-- What a first byte may be: a character with its number, or the first of a longer one. -/
def Lead.Fits (b : UInt8) : Lead → Bool
  | single c => c.toNat = b.toNat ∧ b.toNat < 0x80
  | opens p => p.IsLong
  | none => true

/-- A first byte is an ASCII character with its number, or it opens a longer character whose next
byte has a range of its own. -/
theorem fits_lead (b : UInt8) : (lead b).Fits b = true := by
  have all : ∀ n < 256, (lead (.ofNat n)).Fits (.ofNat n) = true := by decide +kernel
  have this := all b.toNat b.toNat_lt
  rwa [UInt8.ofNat_toNat] at this

/-- A number that is no plain character's is read as no plain character. -/
theorem toNat_ofNat {n : Nat} (long : 0x80 ≤ n) :
    (Char.ofNat n).toNat = 0 ∨ 0x80 ≤ (Char.ofNat n).toNat := by
  by_cases valid : n.isValidChar
  · have number : (Char.ofNat n).toNat = n := by
      rw [Char.ofNat, dif_pos valid]
      rfl
    right
    rwa [number]
  · left
    rw [Char.ofNat, dif_neg valid]
    rfl

namespace Decoder

/-- A plain character was not read, and is not being read. -/
structure Lacks (c : Char) (d : Decoder) : Prop where
  done : c ∉ d.done
  pending : ∀ p, d.pending = some p → p.IsLong

variable {c : Char} {done : Array Char} {b : UInt8} {d : Decoder}

/-- A byte at the beginning of a character adds an ASCII character only if it is that character. -/
theorem lacks_first (plain : c.toNat < 0x80) (lacks : c ∉ done) (other : b.toNat ≠ c.toNat) :
    Lacks c (first done b) := by
  have fits := fits_lead b
  -- no ASCII character stands for bytes that are no text
  have replaced : c ≠ replacement := by
    rintro rfl
    exact absurd plain (by decide)
  unfold first
  cases read : lead b with
  | single c' =>
    have number : c'.toNat = b.toNat := by
      rw [read] at fits
      simp only [Lead.Fits, Bool.decide_and, Bool.and_eq_true, decide_eq_true_eq] at fits
      exact fits.1
    have ne : c ≠ c' := by
      rintro rfl
      exact other number.symm
    exact ⟨by simp [lacks, ne], nofun⟩
  | opens p =>
    refine ⟨lacks, ?_⟩
    rintro _ ⟨⟩
    simpa [read, Lead.Fits] using fits
  | none => exact ⟨by simp [lacks, replaced], nofun⟩

/-- A byte other than that of an ASCII character never adds that character. -/
theorem Lacks.step (h : Lacks c d) (plain : 0 < c.toNat ∧ c.toNat < 0x80)
    (other : b.toNat ≠ c.toNat) : Lacks c (d.step b) := by
  have replaced : c ≠ replacement := by
    rintro rfl
    exact absurd plain (by decide)
  obtain ⟨done, pending⟩ := d
  obtain ⟨lacks, long⟩ := h
  cases pending with
  | none => exact lacks_first plain.2 lacks other
  | some p =>
    obtain ⟨low, high, least⟩ := long p rfl
    simp only [Decoder.step]
    split
    · next within =>
      simp only [Bool.and_eq_true, decide_eq_true_eq, UInt8.le_iff_toNat_le] at within
      have bits : b.toNat &&& 0x3F = b.toNat - 0x80 := by
        rw [Nat.and_two_pow_sub_one_eq_mod _ 6]
        omega
      rw [bits]
      split
      · next last =>
        rw [if_pos last] at least
        have ne : c ≠ Char.ofNat (p.value * 64 + (b.toNat - 0x80)) := by
          intro same
          have := same ▸ toNat_ofNat (show 0x80 ≤ p.value * 64 + (b.toNat - 0x80) by omega)
          omega
        exact ⟨by simpa [ne] using lacks, nofun⟩
      · next more =>
        rw [if_neg (by omega)] at least
        refine ⟨lacks, ?_⟩
        rintro _ ⟨⟩
        -- six more bits make any number but the least two great enough
        refine ⟨by simp, by simp, ?_⟩
        dsimp only
        split <;> omega
    · exact lacks_first plain.2 (by simpa [replaced] using lacks) other

/-- Bytes without that of an ASCII character never add that character. -/
theorem Lacks.foldl {bytes : Bytes} (h : Lacks c d) (plain : 0 < c.toNat ∧ c.toNat < 0x80)
    (others : ∀ b ∈ bytes, b.toNat ≠ c.toNat) : Lacks c (bytes.foldl Decoder.step d) := by
  induction bytes generalizing d with
  | nil => exact h
  | cons b rest ih =>
    obtain ⟨other, others⟩ := List.forall_mem_cons.1 others
    exact ih (h.step plain other) others

end Decoder

/-- A plain character that is read comes from its own byte. -/
theorem mem_of_mem_chars {bytes : Bytes} {c : Char} (plain : 0 < c.toNat ∧ c.toNat < 0x80)
    (mem : c ∈ chars bytes) : ∃ b ∈ bytes, b.toNat = c.toNat := by
  refine Classical.byContradiction fun none => ?_
  have start : Decoder.Lacks c .start := ⟨by simp [Decoder.start], nofun⟩
  have others : ∀ b ∈ bytes, b.toNat ≠ c.toNat := fun b mem same => none ⟨b, mem, same⟩
  -- bytes without its own never add the character
  have lacks := start.foldl plain others
  have replaced : c ≠ replacement := by
    rintro rfl
    exact absurd plain (by decide)
  have out := lacks.done
  unfold chars Decoder.finish at mem
  split at mem
  · exact out (by simpa using mem)
  · exact out (by simpa [replaced] using mem)

/-- A plain byte that is written is that of its own character. -/
theorem mem_of_mem_encode {s : String} {b : UInt8} (plain : b.toNat < 0x80) (mem : b ∈ encode s) :
    ∃ c ∈ s.toList, c.toNat = b.toNat := by
  obtain ⟨c, within, mem⟩ := List.mem_flatMap.1 mem
  refine ⟨c, within, ?_⟩
  change c.val.toNat = b.toNat
  simp only [String.utf8EncodeChar] at mem
  generalize c.val.toNat = n at mem
  have byte {n : Nat} (small : n < 0x100) : (UInt8.ofNat n).toNat = n :=
    UInt8.toNat_ofNat_of_lt' (by rwa [UInt8.size])
  split at mem
  · obtain rfl := List.mem_singleton.1 mem
    rw [byte (by omega)]
  -- all bytes of a longer character are beyond the plain ones
  exfalso
  split at mem
  · simp only [List.mem_cons, List.not_mem_nil, or_false] at mem
    rcases mem with rfl | rfl <;> rw [byte (by omega)] at plain <;> omega
  split at mem
  · simp only [List.mem_cons, List.not_mem_nil, or_false] at mem
    rcases mem with rfl | rfl | rfl <;> rw [byte (by omega)] at plain <;> omega
  · simp only [List.mem_cons, List.not_mem_nil, or_false] at mem
    rcases mem with rfl | rfl | rfl | rfl <;> rw [byte (by omega)] at plain <;> omega

/-- **Reading brings no plain byte.** What is read and written again has no plain bytes but those
that were there. -/
theorem mem_of_mem_encode_decode {bytes : Bytes} {b : UInt8} (plain : 0 < b.toNat ∧ b.toNat < 0x80)
    (mem : b ∈ encode (decode bytes)) : b ∈ bytes := by
  obtain ⟨c, read, number⟩ := mem_of_mem_encode plain.2 mem
  rw [toList_decode] at read
  obtain ⟨b', there, same⟩ := mem_of_mem_chars (number.symm ▸ plain) read
  rwa [← UInt8.toNat_inj.1 (same.trans number)]

end Orchestrator.Text
