namespace Orchestrator.Text

/-!
# Text — one text inside another

* `occursIn` — whether a text occurs anywhere in another one. The empty text occurs everywhere.
* `occursIn_iff` — it does exactly if the other one is that text with something before and after it.
-/

/-- The text occurs in the other one. -/
def occursIn (wanted : List Char) : List Char → Bool
  | [] => wanted.isEmpty
  | c :: rest => wanted.isPrefixOf (c :: rest) || occursIn wanted rest

theorem occursIn_iff {wanted text : List Char} :
    occursIn wanted text = true ↔ wanted <:+: text := by
  induction text with
  | nil => simp [occursIn]
  | cons c rest ih => simp [occursIn, ih, List.infix_cons_iff]

end Orchestrator.Text
