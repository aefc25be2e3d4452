import Orchestrator.CommandLine
import Orchestrator.Proofs.Text.Words

namespace Orchestrator.CommandLine

/-!
# Spelling — command lines and the lines of text that spell them

A command line is displayed without quotes, so a token that is no word is lost when it is read
again. Everything that can be read is made of words only.

* `clean_iff` — a token is clean if it is a word.
* `parse_eq_some_iff`, `parse_eq_none_iff` — a line is read as the command line whose tokens it
  spells, and as none if it spells no word.
* `parse_display_iff` — just the command lines that have clean tokens are read as they were.
* `parse_inverts_display` — what is read of command lines displayed, and of any line.
-/

variable {c : CommandLine} {token line : String}

/-- A token is clean if it is a word. -/
theorem clean_iff : Clean token ↔ Text.IsWord token.toList := by
  have some_ : token ≠ "" ↔ token.toList ≠ [] := not_congr String.toList_eq_nil_iff.symm
  constructor
  · exact fun h => ⟨some_.1 h.1, h.2⟩
  · exact fun h => ⟨some_.2 h.some_, h.whole⟩

/-- A line is read as the command line whose tokens it spells. -/
theorem parse_eq_some_iff :
    parse line = some c ↔ Text.Spells line.toList (c.tokens.map String.toList) := by
  have same (ws : List (List Char)) : (ws.map String.ofList).map String.toList = ws := by simp
  have same' (ts : List String) : (ts.map String.toList).map String.ofList = ts := by simp
  rw [Text.spells_iff, parse]
  obtain ⟨program, arguments⟩ := c
  constructor
  · intro read
    split at read
    · cases read
    · next words =>
      cases read
      rw [tokens_mk, ← words, same]
  · intro words
    rw [words, same', tokens_mk]

/-- A line is read as no command line if it spells no word. -/
theorem parse_eq_none_iff : parse line = none ↔ Text.Spells line.toList [] := by
  rw [Text.spells_iff, parse]
  constructor
  · intro none
    split at none
    · next words => exact List.map_eq_nil_iff.1 words
    · cases none
  · intro none
    rw [none, List.map_nil]

/-- Only clean tokens are read. -/
theorem clean_of_parse (read : parse line = some c) : ∀ token ∈ c.tokens, Clean token := by
  intro token mem
  have spells := parse_eq_some_iff.1 read
  exact clean_iff.2 (spells.isWord _ (List.mem_map_of_mem mem))

/-- A command is shown as its tokens with a space between them. -/
theorem toList_display (c : CommandLine) :
    c.display.toList = [' '].intercalate (c.tokens.map String.toList) :=
  String.toList_intercalate

/-- Just the command lines that have clean tokens are read as they were. -/
theorem parse_display_iff : parse c.display = some c ↔ ∀ token ∈ c.tokens, Clean token := by
  constructor
  · exact clean_of_parse
  · intro clean
    -- clean tokens are words, and a space parts them
    have areWords : ∀ word ∈ c.tokens.map String.toList, Text.IsWord word := by
      rw [List.forall_mem_map]
      intro token mem
      exact clean_iff.1 (clean token mem)
    rw [parse_eq_some_iff, toList_display]
    exact Text.spells_intercalate areWords (by decide)

/-- **Reading inverts displaying, just where nothing needs quotes.** A command line that is
displayed is read as itself if all its tokens are clean, and in no other case. A line is read as no
command line if there are only blanks in it, and in no other case. Else it is read as a command line
with clean tokens, which have all characters of the line that are no blanks, in their order; and
displaying it makes a line that is read alike. -/
theorem parse_inverts_display :
    (∀ c : CommandLine, parse c.display = some c ↔ ∀ token ∈ c.tokens, Clean token) ∧
    ∀ line : String,
      match parse line with
      | none => ∀ ch ∈ line.toList, Text.isBlank ch = true
      | some c =>
        (∃ ch ∈ line.toList, Text.isBlank ch = false) ∧
        (∀ token ∈ c.tokens, Clean token) ∧
        c.tokens.flatMap String.toList = line.toList.filter (!Text.isBlank ·) ∧
        parse c.display = some c := by
  refine ⟨fun c => parse_display_iff, fun line => ?_⟩
  cases read : parse line with
  | none => exact Text.spells_nil_iff.1 (parse_eq_none_iff.1 read)
  | some c =>
    have clean : ∀ token ∈ c.tokens, Clean token := clean_of_parse read
    have kept : c.tokens.flatMap String.toList = line.toList.filter (!Text.isBlank ·) :=
      (parse_eq_some_iff.1 read).flatten_eq
    refine ⟨?_, clean, kept, parse_display_iff.2 clean⟩
    -- if there were only blanks, nothing would have been read
    by_contra none
    have blanks : ∀ ch ∈ line.toList, Text.isBlank ch = true := by
      intro ch mem
      by_contra other
      exact none ⟨ch, mem, by simpa using other⟩
    rw [parse_eq_none_iff.2 (Text.spells_nil_iff.2 blanks)] at read
    cases read

example : parse "\u00A0tar\t-xzvf \u3000a.tar.gz\n" = some ⟨"tar", ["-xzvf", "a.tar.gz"]⟩ := by
  decide
example : parse (display ⟨"a b", [""]⟩) = some ⟨"a", ["b"]⟩ := by decide

end Orchestrator.CommandLine
