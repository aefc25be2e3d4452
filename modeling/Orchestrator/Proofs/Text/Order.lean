import Mathlib.Data.String.Basic
import Orchestrator.Text.Utf8

namespace Orchestrator.Text

/-!
# Order — texts, and the bytes of texts

Texts are compared character by character. The bytes of two characters part at a byte of both, and
the smaller character has the smaller byte there. So it comes to the same to compare texts by the
numbers of their characters, or by their bytes.

* `KeepsOrder` — a code of characters that may be compared in place of them.
* `keepsOrder_encodeChar` — UTF-8 is one.
* `KeepsOrder.flatMap_lt_iff` — what holds of characters holds of texts.
* `codePoints_le_iff`, `encode_le_iff` — texts by the numbers of their characters, and by bytes.
-/

variable {α : Type} [LT α]

/-! ### Codes -/

/-- A code that may be compared in place of characters: no character is left out, and the code of
the smaller one comes first, whatever follows the two. -/
structure KeepsOrder (code : Char → List α) : Prop where
  ne_nil : ∀ c, code c ≠ []
  lt : ∀ c d, c < d → ∀ rest rest', code c ++ rest < code d ++ rest'

namespace KeepsOrder

variable {code : Char → List α} {cs ds : List Char}

/-- Coding two texts symbol by symbol keeps their order. -/
theorem flatMap_lt (keeps : KeepsOrder code) (less : cs < ds) :
    cs.flatMap code < ds.flatMap code := by
  induction cs generalizing ds with
  | nil =>
    cases ds with
    | nil => exact absurd less (List.lt_irrefl [])
    | cons d ds =>
      obtain ⟨first, more, code_⟩ := List.exists_cons_of_ne_nil (keeps.ne_nil d)
      rw [List.flatMap_nil, List.flatMap_cons, code_]
      exact List.nil_lt_cons first _
  | cons c cs ih =>
    cases ds with
    | nil => exact absurd less (List.not_lt_nil _)
    | cons d ds =>
      rw [List.flatMap_cons, List.flatMap_cons]
      -- the first symbols decide, unless they are the same
      rcases List.cons_lt_cons_iff.1 less with first | ⟨rfl, rest⟩
      · exact keeps.lt c d first _ _
      · exact List.append_left_lt (ih rest)

/-- What holds of characters holds of texts. -/
theorem flatMap_lt_iff [Std.Asymm fun a b : α => a < b] (keeps : KeepsOrder code) :
    cs.flatMap code < ds.flatMap code ↔ cs < ds := by
  refine ⟨fun less => ?_, keeps.flatMap_lt⟩
  rcases lt_trichotomy cs ds with right | rfl | wrong
  · exact right
  · exact absurd less (List.lt_irrefl _)
  · exact absurd (keeps.flatMap_lt wrong) (List.lt_asymm less)

end KeepsOrder

/-! ### UTF-8 -/

/-- Two rows of bytes whose first ones differ. -/
theorem cons_lt_of_lt {m n : Nat} (less : m < n) (byte : n < 256) (rest rest' : Bytes) :
    UInt8.ofNat m :: rest < UInt8.ofNat n :: rest' := by
  refine List.cons_lt_cons_iff.2 (.inl ?_)
  rw [UInt8.lt_iff_toNat_lt, UInt8.toNat_ofNat_of_lt' (by rw [UInt8.size]; omega),
    UInt8.toNat_ofNat_of_lt' (by rwa [UInt8.size])]
  exact less

/-- Two rows of bytes whose first ones may be equal. -/
theorem cons_lt_of_le {m n : Nat} {rest rest' : Bytes} (le : m ≤ n) (byte : n < 256)
    (less : m = n → rest < rest') : UInt8.ofNat m :: rest < UInt8.ofNat n :: rest' := by
  rcases Nat.lt_or_eq_of_le le with first | rfl
  · exact cons_lt_of_lt first byte rest rest'
  · exact List.cons_lt_cons_iff.2 (.inr ⟨rfl, less rfl⟩)

/-- The bytes of the smaller character come first, whatever follows. -/
theorem keepsOrder_encodeChar : KeepsOrder String.utf8EncodeChar where
  ne_nil _ := String.utf8EncodeChar_ne_nil
  lt c d less rest rest' := by
    have less : c.val.toNat < d.val.toNat := UInt32.lt_iff_toNat_lt.1 less
    have valid : d.val.toNat < 0xD800 ∨ 0xDFFF < d.val.toNat ∧ d.val.toNat < 0x110000 := d.valid
    simp only [String.utf8EncodeChar]
    generalize c.val.toNat = m at less
    generalize d.val.toNat = n at less valid
    -- the more bytes a character has, the greater the first one is
    split
    · split
      · exact cons_lt_of_lt less (by omega) _ _
      split
      · exact cons_lt_of_lt (by omega) (by omega) _ _
      split
      · exact cons_lt_of_lt (by omega) (by omega) _ _
      · exact cons_lt_of_lt (by omega) (by omega) _ _
    rw [if_neg (show ¬n ≤ 127 by omega)]
    split
    · split
      · refine cons_lt_of_le (by omega) (by omega) fun first => ?_
        exact cons_lt_of_lt (by omega) (by omega) _ _
      split
      · exact cons_lt_of_lt (by omega) (by omega) _ _
      · exact cons_lt_of_lt (by omega) (by omega) _ _
    rw [if_neg (show ¬n ≤ 2047 by omega)]
    split
    · split
      · refine cons_lt_of_le (by omega) (by omega) fun first => ?_
        refine cons_lt_of_le (by omega) (by omega) fun second => ?_
        exact cons_lt_of_lt (by omega) (by omega) _ _
      · exact cons_lt_of_lt (by omega) (by omega) _ _
    rw [if_neg (show ¬n ≤ 65535 by omega)]
    refine cons_lt_of_le (by omega) (by omega) fun first => ?_
    refine cons_lt_of_le (by omega) (by omega) fun second => ?_
    refine cons_lt_of_le (by omega) (by omega) fun third => ?_
    exact cons_lt_of_lt (by omega) (by omega) _ _

/-! ### Texts -/

/-- The numbers of the characters of a text. -/
def codePoints (s : String) : List Nat := s.toList.map Char.toNat

/-- Characters are ordered like their code points. -/
theorem keepsOrder_toNat : KeepsOrder fun c => [c.toNat] where
  ne_nil _ := List.cons_ne_nil _ _
  lt _ _ less _ _ := List.cons_lt_cons_iff.2 (.inl (UInt32.lt_iff_toNat_lt.1 less))

/-- Texts are compared by the numbers of their characters. -/
theorem codePoints_le_iff {s t : String} : codePoints s ≤ codePoints t ↔ s ≤ t := by
  have less : codePoints t < codePoints s ↔ t < s := by
    rw [codePoints, codePoints, List.map_eq_flatMap, List.map_eq_flatMap, String.lt_iff_toList_lt]
    exact keepsOrder_toNat.flatMap_lt_iff
  rw [← not_lt, less, String.not_lt]

/-- **Texts by their bytes.** The order of texts is that of their bytes. -/
theorem encode_le_iff {s t : String} : encode s ≤ encode t ↔ s ≤ t := by
  have less : encode t < encode s ↔ t < s := by
    rw [String.lt_iff_toList_lt]
    exact keepsOrder_encodeChar.flatMap_lt_iff
  rw [← List.not_lt, less, String.not_lt]

end Orchestrator.Text
