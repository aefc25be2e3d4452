import Orchestrator.Shell.Cursor

namespace Orchestrator.Shell

/-!
# The shell — what words and commands are made of

* `Mode` — where in a word the reading stands, which decides what ends it and what is special.
* `Read.singleQuoted`, `Read.backQuoted`, `Read.escape` — what protects the bytes of a word.
* `Read.operator`, `Read.redirection` — tokens that are no words.
* `Read.documentLines` — the lines of a here-document.
* `Read.head` — what stands between the braces of a parameter, up to the word behind its use.
-/

/-- Where in a word the reading stands. -/
inductive Mode where
  | word
  /-- The word that ends a here-document; no value is put into it. -/
  | delimiter
  /-- Between double quotes. -/
  | quotes
  /-- Behind the use of a parameter, between braces. -/
  | braces (quoted : Bool)
  /-- In an expression, inside so many parentheses of its own. -/
  | arithmetic (depth : Nat)
  /-- In a here-document. -/
  | document
  deriving DecidableEq, Repr

namespace Mode

/-- What is read in the mode is quoted. -/
def isQuoted : Mode → Bool
  | word | delimiter => false
  | braces quoted => quoted
  | quotes | arithmetic _ | document => true

/-- Bytes that end a word. -/
def ending : Bytes := Text.encode " \t\n&|;<>()"

/-- Bytes that are special in the mode. -/
def special : Mode → Bytes
  | word => ending ++ Text.encode "'\"$`\\"
  | delimiter => ending ++ Text.encode "'\"\\"
  | quotes => Text.encode "\"$`\\"
  | braces false => Text.encode "\x7d'\"$`\\"
  | braces true => Text.encode "\x7d\"$`\\"
  | arithmetic _ => Text.encode "()$`\\"
  | document => Text.encode "$`\\"

/-- Bytes that lose their meaning behind a backslash in the mode; without quotes all do. -/
def escaped : Mode → Bytes
  | braces true => Text.encode "\\`$\"\x7d"
  | document => Text.encode "\\`$"
  | _ => Text.encode "\\`$\""

/-- The complaint about a text that ends in the mode; words and here-documents may end with it. -/
def complaint? : Mode → Option String
  | word | delimiter | document => none
  | quotes | braces true => some "Unterminated quoted string"
  | braces false => some "Missing '\x7d'"
  | arithmetic _ => some "Missing '))'"

end Mode

namespace Read

/-! ### Parts of words -/

/-- Text in front of a word. -/
def prepend (bytes : Bytes) (quoted : Bool) : Word → Word
  | .text others other :: rest =>
    if quoted = other then .text (bytes ++ others) quoted :: rest
    else .text bytes quoted :: .text others other :: rest
  | rest => .text bytes quoted :: rest

/-- A word behind another. -/
def append (first rest : Word) : Word :=
  match first with
  | [.text bytes quoted] => prepend bytes quoted rest
  | _ => first ++ rest

/-- The text up to a single quote. -/
def singleQuoted : Read Bytes := do
  let text ← run (· != singleQuote)
  if (← cursor).rest = [] then fail "Unterminated quoted string"
  skip
  pure text

/-- A backslash and what stands behind it. -/
def escape (mode : Mode) : Read Piece := do
  match (← cursor).rest with
  | _ :: b :: _ =>
    let _ ← take 2
    if mode.isQuoted && !mode.escaped.contains b then pure (.text [backslash, b] true)
    else pure (.text [b] true)
  | _ => do
    skip
    pure (.text [backslash] true)

/-- The commands between back quotes, with the backslashes left out that protect them. -/
def backQuoted (mode : Mode) : (fuel : Nat) → Read Bytes
  | 0 => fail "EOF in backquote substitution"
  | fuel + 1 => do
    match ← peek with
    | none => fail "EOF in backquote substitution"
    | some b =>
      let _ ← take 1
      if b = backQuote then pure []
      else if b = backslash then
        let protectedBytes := Text.encode (if mode.isQuoted then "\\`$\"" else "\\`$")
        match (← cursor).rest with
        | next :: _ =>
          let _ ← take 1
          let rest ← backQuoted mode fuel
          pure (if protectedBytes.contains next then next :: rest else b :: next :: rest)
        | [] => backQuoted mode fuel
      else do
        let rest ← backQuoted mode fuel
        pure (b :: rest)

/-- Pass over blanks. -/
def skipBlanks : (fuel : Nat) → Read Unit
  | 0 => pure ()
  | fuel + 1 => do
    let _ ← run fun b => b == 32 || b == 9
    match ← peek with
    | some 32 | some 9 => skipBlanks fuel
    | _ => pure ()

/-- Go on behind the next byte if it is the given one; tells whether it was. -/
def accept (wanted : UInt8) : Read Bool := do
  if (← peek) = some wanted then
    skip
    pure true
  else pure false

/-- The operator or the redirection that begins with a byte, which is read already. -/
def operator (first : UInt8) : Read Token := do
  match first with
  | 38 => pure (.operator (if ← accept 38 then .and else .ampersand))
  | 124 => pure (.operator (if ← accept 124 then .or else .pipe))
  | 59 => pure (.operator (if ← accept 59 then .endCase else .semicolon))
  | 40 => pure (.operator .leftParen)
  | _ => pure (.operator .rightParen)

/-- What the bytes behind a `>` say. -/
def outputKind : Read Redirecting := do
  if ← accept 62 then pure (.file .append)
  else if ← accept 124 then pure (.file .replacement)
  else if ← accept 38 then pure .duplicate
  else pure (.file .output)

/-- What the bytes behind a `<` say. -/
def inputKind : Read Redirecting := do
  if ← accept 60 then
    let stripsTabs ← accept 45
    pure (.document stripsTabs)
  else if ← accept 38 then pure .duplicate
  else if ← accept 62 then pure (.file .both)
  else pure (.file .input)

/-- The redirection that begins with a byte, which is read already. -/
def redirection (descriptor? : Option Nat) (first : UInt8) : Read Token := do
  if first = 62 then
    let kind ← outputKind
    pure (.redirection (descriptor?.getD 1) kind)
  else
    let kind ← inputKind
    pure (.redirection (descriptor?.getD 0) kind)

/-- The descriptor in front of a redirection: none, or a digit. -/
def descriptor? (word : Word) : Option (Option Nat) :=
  match word.plain? with
  | some [] => some none
  | some [b] => if isDigit b then some (some (b.toNat - 48)) else none
  | _ => none

/-- The bytes of a name. -/
def name : (fuel : Nat) → Read Bytes
  | 0 => pure []
  | fuel + 1 => do
    match ← peek with
    | some b =>
      if inName b then
        let bytes ← run inName
        let rest ← name fuel
        pure (bytes ++ rest)
      else pure []
    | none => pure []

/-- The bytes of a number. -/
def digits : (fuel : Nat) → Read Bytes
  | 0 => pure []
  | fuel + 1 => do
    match ← peek with
    | some b =>
      if isDigit b then
        let bytes ← run isDigit
        let rest ← digits fuel
        pure (bytes ++ rest)
      else pure []
    | none => pure []

/-- The lines of a here-document, up to its delimiter or the end of the text. -/
def documentLines (pending : Pending) : (fuel : Nat) → Read Bytes
  | 0 => pure []
  | fuel + 1 => do
    if (← cursor).rest = [] then pure []
    else
      let line ← run (· != lineEnd)
      let line := if pending.stripsTabs then line.dropWhile (· == 9) else line
      let ended ← take 1
      if line = pending.delimiter then pure []
      else
        let rest ← documentLines pending fuel
        pure (line ++ ended ++ rest)

/-! ### The use of a parameter -/

/-- What the bytes between braces say about a parameter, up to the word behind its use. -/
inductive Head where
  /-- The value as it is; the closing brace is read. -/
  | plain (name : Bytes)
  /-- A use with a word behind it. -/
  | used (name : Bytes) (use : Word → Use) (isTrim : Bool)
  /-- No use; the rest is read up to the closing brace. -/
  | unknown

/-- The use of a named parameter. -/
def useOf (name : Bytes) : Read Head := do
  let emptyToo ← accept 58
  match ← peek with
  | some 125 => do
    skip
    pure (if emptyToo then .unknown else .plain name)
  | some 45 => do skip; pure (.used name (.fallback emptyToo) false)
  | some 43 => do skip; pure (.used name (.replace emptyToo) false)
  | some 63 => do skip; pure (.used name (.demand emptyToo) false)
  | some 61 => do skip; pure (.used name (.assign emptyToo) false)
  | some 37 => do
    if emptyToo then pure .unknown
    else do
      skip
      let longest ← accept 37
      pure (.used name (.trim .back longest) true)
  | some 35 => do
    if emptyToo then pure .unknown
    else do
      skip
      let longest ← accept 35
      pure (.used name (.trim .front longest) true)
  | some _ => do skip; pure .unknown
  | none => pure .unknown

/-- The length of a parameter; nothing may stand behind its name. -/
def lengthOf (name : Bytes) : Read Head := do
  if (← peek) = some closeBrace then pure (.used name (fun _ => .length) false)
  else pure .unknown

/-- The name and the use behind an opening brace. -/
def head (fuel : Nat) : Read Head := do
  match ← peek with
  | none => pure .unknown
  | some b =>
    if beginsName b then do useOf (← name fuel)
    else if isDigit b then do useOf (← digits fuel)
    else if b = closeBrace then pure .unknown
    else do
      skip
      if b = hash then
        match ← peek with
        | some c =>
          if beginsName c then do lengthOf (← name fuel)
          else if isDigit c then do lengthOf (← digits fuel)
          else
            let before ← cursor
            skip
            let after ← peek
            if c = closeBrace ∨ after ≠ some closeBrace then fun _ => useOf [hash] before
            else if isSpecial c then lengthOf [c]
            else pure .unknown
        | none => pure .unknown
      else if isSpecial b then useOf [b]
      else pure .unknown

end Read

end Orchestrator.Shell
