import Orchestrator.Shell.Lexeme

namespace Orchestrator.Shell

/-!
# The shell — reading commands

A text is read command by command, each up to the end of its last line, so that what stands before
a mistake is carried out.

* `Read.pieces` — a word, or the part of a word in a mode.
* `Read.next` — a token, with aliases and keywords in place of words.
* `Read.list` — a list of commands, and all that commands are made of.
* `readCommand` — the next command of a text, if there is one.

Everything that nests is read with one step of fuel less than what it stands in. A step without a
byte read happens only a few times in a row, so the length of the text bounds the fuel.
-/

/-- Which list of commands is read. -/
inductive Extent where
  /-- The commands up to the end of a line. -/
  | line
  /-- At least one command inside another. -/
  | some
  /-- Any number of commands inside another. -/
  | any
  deriving DecidableEq, Repr

namespace Read

/-- Two commands after one another; the first may be missing. -/
def andThen (first? : Option Command) (second : Command) : Command :=
  match first? with
  | none => second
  | some first => .sequence first second

/-- Names of special commands, which no function can have. -/
def reserved : List String :=
  [".", ":", "break", "continue", "eval", "exec", "exit", "export", "readonly", "return", "set",
    "shift", "times", "trap", "unset"]

/-- A function can have the name. -/
def isFunctionName (name : Bytes) : Bool := isName name && !reserved.contains (Text.decode name)

mutual

/-- A word, or the part of a word in a mode. -/
def pieces : (fuel : Nat) → Mode → Read Word
  | 0, _ => fail "Word too long"
  | fuel + 1, mode => do
    match ← peek with
    | none =>
      match mode.complaint? with
      | some complaint => fail complaint
      | none => pure []
    | some b =>
      if !mode.special.contains b then
        let text ← run fun b => !mode.special.contains b
        pure (prepend text mode.isQuoted (← pieces fuel mode))
      else if b = backslash then
        let piece ← escape mode
        pure (append [piece] (← pieces fuel mode))
      else if b = singleQuote then do
        skip
        let text ← singleQuoted
        pure (prepend text true (← pieces fuel mode))
      else if b = doubleQuote then do
        skip
        if mode = .quotes then pure []
        else
          let inner ← pieces fuel .quotes
          let inner :=
            match inner with
            | [.parameter [64] .value _] => inner
            | _ => prepend [] true inner
          pure (append inner (← pieces fuel mode))
      else if b = dollar then do
        skip
        let piece ← dollarPiece fuel mode
        pure (append [piece] (← pieces fuel mode))
      else if b = backQuote then do
        skip
        let text ← backQuoted mode fuel
        let commands ← aside 1 text (list fuel .any none)
        pure (.output commands mode.isQuoted :: (← pieces fuel mode))
      else
        match mode, b with
        | .braces _, _ => do
          skip
          pure []
        | .arithmetic depth, 40 => do
          skip
          pure (prepend [b] true (← pieces fuel (.arithmetic (depth + 1))))
        | .arithmetic (depth + 1), _ => do
          skip
          pure (prepend [b] true (← pieces fuel (.arithmetic depth)))
        | .arithmetic 0, _ => do
          skip
          if ← accept closeParen then pure []
          else pure (prepend [b] true (← pieces fuel mode))
        | _, _ => pure []

/-- What stands behind a dollar sign. -/
def dollarPiece : (fuel : Nat) → Mode → Read Piece
  | 0, _ => fail "Word too long"
  | fuel + 1, mode => do
    let quoted := mode.isQuoted
    match ← peek with
    | some 40 => do
      skip
      if ← accept openParen then pure (.arithmetic (← pieces fuel (.arithmetic 0)) quoted)
      else
        let inside : Read Piece := do
          let commands ← list fuel .any none
          match ← next fuel false false false with
          | .operator .rightParen => pure (.output commands quoted)
          | other => unexpected other (some (.operator .rightParen))
        withoutPending inside
    | some 123 => do
      skip
      let head ← head fuel
      match head with
      | .plain name => pure (.parameter name .value quoted)
      | .used name use isTrim =>
        let word ← pieces fuel (.braces (quoted && !isTrim))
        pure (.parameter name (use word) quoted)
      | .unknown =>
        let _ ← pieces fuel (.braces quoted)
        pure (.parameter [] .unknown quoted)
    | some b =>
      if beginsName b then pure (.parameter (← name fuel) .value quoted)
      else if isSpecial b then do
        skip
        pure (.parameter [b] .value quoted)
      else pure (.text [dollar] quoted)
    | none => pure (.text [dollar] quoted)

/-- The next token as it is spelled; a word is read in the given mode. -/
def token : (fuel : Nat) → Mode → Read Token
  | 0, _ => fail "Word too long"
  | fuel + 1, mode => do
    skipBlanks fuel
    match ← peek with
    | none => pure .ending
    | some b =>
      if b = lineEnd then do
        skip
        pure .newline
      else if b = hash then
        let _ ← run (· != lineEnd)
        token fuel mode
      else if [38, 124, 59, 40, 41].contains b then do
        skip
        operator b
      else
        let word ← pieces fuel mode
        let after ← peek
        match after, descriptor? word with
        | some 60, some descriptor? => do
          skip
          redirection descriptor? 60
        | some 62, some descriptor? => do
          skip
          redirection descriptor? 62
        | _, _ => pure (.word word)

/-- The texts of the here-documents that wait for them. -/
def readDocuments : (fuel : Nat) → List Pending → Read Unit
  | 0, _ | _, [] => pure ()
  | fuel + 1, pending :: rest => do
    let line := (← cursor).line
    let text ← documentLines pending fuel
    let body ←
      if pending.isQuoted then pure [Piece.text text true]
      else aside line text (pieces fuel .document)
    let () ← fun c => (.ok (), { c with documents := (pending.number, body) :: c.documents })
    readDocuments fuel rest

/-- The texts of all here-documents that wait for them. -/
def readPending : (fuel : Nat) → Read Unit
  | 0 => pure ()
  | fuel + 1 => do
    let waiting := (← cursor).pending
    let () ← fun c => (.ok (), { c with pending := [] })
    readDocuments fuel waiting

/-- The next token. Newlines are passed over if `newlines` says so, and words are taken as keywords
or as aliases if `keywords` or `aliases` does. -/
def next : (fuel : Nat) → (newlines keywords aliases : Bool) → Read Token
  | 0, _, _, _ => fail "Word too long"
  | fuel + 1, newlines, keywords, aliases => do
    let c ← cursor
    let found ←
      match c.early with
      | some early => fun c => (.ok early, { c with early := none })
      | none => token fuel .word
    match found with
    | .newline =>
      if newlines then do
        readPending fuel
        next fuel newlines keywords aliases
      else pure found
    | .word word =>
      match word.plain? with
      | none => pure found
      | some text =>
        match if keywords then Keyword.ofBytes? text else none with
        | some keyword => pure (.keyword keyword)
        | none =>
          let isReplaced ←
            if aliases && c.early.isNone then expandAlias text else pure false
          if isReplaced then next fuel newlines keywords aliases else pure found
    | other => pure other

/-- The word behind a redirection. -/
def target : (fuel : Nat) → (descriptor : Nat) → Redirecting → Read Redirection
  | 0, _, _ => fail "Word too long"
  | fuel + 1, descriptor, kind => do
    match kind with
    | .document stripsTabs =>
      match ← token fuel .delimiter with
      | .word word => do
        let number ← announce word.unquoted word.hasQuotes stripsTabs
        pure (.document descriptor number)
      | other => unexpected other none
    | .file opening =>
      match ← next fuel false false false with
      | .word word => pure (.file descriptor opening word)
      | other => unexpected other none
    | .duplicate =>
      match ← next fuel false false false with
      | .word word => pure (.duplicate descriptor word)
      | other => unexpected other none

/-- The redirections behind a command that is put together. -/
def redirections : (fuel : Nat) → (keywords : Bool) → Read (List Redirection)
  | 0, _ => fail "Word too long"
  | fuel + 1, keywords => do
    match ← next fuel false keywords false with
    | .redirection descriptor kind => do
      let first ← target fuel descriptor kind
      pure (first :: (← redirections fuel false))
    | other => do
      putBack other
      pure []

/-- A list of commands behind those that are read already. -/
def list : (fuel : Nat) → Extent → Option Command → Read (Option Command)
  | 0, _, _ => fail "Word too long"
  | fuel + 1, extent, before? => do
    match ← next fuel (extent != .line) true true with
    | .newline => do
      readPending fuel
      pure before?
    | .ending => do
      readPending fuel
      putBack .ending
      pure before?
    | first => do
      putBack first
      if extent = .any ∧ first.endsList then pure before?
      else
        let command ← andOr fuel (← pipeline fuel false false)
        let later := if extent = .some then .any else extent
        match ← next fuel false false false with
        | .operator .ampersand => list fuel later (some (andThen before? (.background command)))
        | .operator .semicolon => list fuel later (some (andThen before? command))
        | .newline => do
          putBack .newline
          list fuel later (some (andThen before? command))
        | .ending => do
          readPending fuel
          putBack .ending
          pure (some (andThen before? command))
        | other =>
          if extent = .line then unexpected other none
          else do
            putBack other
            pure (some (andThen before? command))

/-- The commands that hang on how the first one ends. -/
def andOr : (fuel : Nat) → Command → Read Command
  | 0, _ => fail "Word too long"
  | fuel + 1, first => do
    match ← next fuel false false false with
    | .operator .and => do andOr fuel (.conjunction first (← pipeline fuel true true))
    | .operator .or => do andOr fuel (.disjunction first (← pipeline fuel true true))
    | other => do
      putBack other
      pure first

/-- Commands that pass their output on. -/
def pipeline : (fuel : Nat) → (newlines keywords : Bool) → Read Command
  | 0, _, _ => fail "Word too long"
  | fuel + 1, newlines, keywords => do
    match ← next fuel newlines keywords keywords with
    | .keyword .not => do
      let first ← command fuel false true
      pure (.negation (← pipes fuel [first]))
    | other => do
      putBack other
      let first ← command fuel false false
      pipes fuel [first]

/-- The rest of a pipeline. -/
def pipes : (fuel : Nat) → List Command → Read Command
  | 0, _ => fail "Word too long"
  | fuel + 1, before => do
    match ← next fuel false false false with
    | .operator .pipe => do
      let later ← command fuel true true
      pipes fuel (before ++ [later])
    | other => do
      putBack other
      match before with
      | [single] => pure single
      | several => pure (.pipeline several)

/-- One command. -/
def command : (fuel : Nat) → (newlines keywords : Bool) → Read Command
  | 0, _, _ => fail "Word too long"
  | fuel + 1, newlines, keywords => do
    let first ← next fuel newlines keywords keywords
    let line := (← cursor).line
    match first with
    | .word _ | .redirection _ _ => do
      putBack first
      simple fuel line [] [] []
    | .operator .leftParen => do
      let body ← body fuel
      expect fuel (.operator .rightParen)
      pure (.subshell line body (← redirections fuel true))
    | .keyword .opening => do
      let body ← body fuel
      expect fuel (.keyword .close)
      withRedirections fuel line body
    | .keyword .if_ => do
      let whole ← choice fuel
      withRedirections fuel line whole
    | .keyword .while_ => do
      let condition ← body fuel
      withRedirections fuel line (.loop false condition (← doBody fuel))
    | .keyword .until_ => do
      let condition ← body fuel
      withRedirections fuel line (.loop true condition (← doBody fuel))
    | .keyword .for_ => do
      let whole ← iteration fuel line
      withRedirections fuel line whole
    | .keyword .case_ => do
      let whole ← selection fuel line
      withRedirections fuel line whole
    | other => unexpected other none

/-- A command with the redirections behind it. -/
def withRedirections : (fuel : Nat) → (line : Nat) → Command → Read Command
  | 0, _, _ => fail "Word too long"
  | fuel + 1, line, whole => do
    match ← redirections fuel true with
    | [] => pure whole
    | found => pure (.redirected line whole found)

/-- At least one command inside another. -/
def body : (fuel : Nat) → Read Command
  | 0 => fail "Word too long"
  | fuel + 1 => do
    match ← list fuel .some none with
    | some commands => pure commands
    | none => pure (.simple 0 [] [] [])

/-- A token that has to come next. -/
def expect : (fuel : Nat) → Token → Read Unit
  | 0, _ => fail "Word too long"
  | fuel + 1, wanted => do
    let found ← next fuel false false false
    match found, wanted with
    | .keyword k, .keyword k' => if k = k' then pure () else unexpected found (some wanted)
    | .operator o, .operator o' => if o = o' then pure () else unexpected found (some wanted)
    | _, _ => unexpected found (some wanted)

/-- The body of a loop, between its keywords. -/
def doBody : (fuel : Nat) → Read Command
  | 0 => fail "Word too long"
  | fuel + 1 => do
    expect fuel (.keyword .do_)
    let body ← body fuel
    expect fuel (.keyword .done)
    pure body

/-- A choice, from its condition on. -/
def choice : (fuel : Nat) → Read Command
  | 0 => fail "Word too long"
  | fuel + 1 => do
    let condition ← body fuel
    expect fuel (.keyword .then_)
    let positive ← body fuel
    match ← next fuel false false false with
    | .keyword .elif => do pure (.choice condition positive (some (← choice fuel)))
    | .keyword .else_ => do
      let negative ← body fuel
      expect fuel (.keyword .fi)
      pure (.choice condition positive (some negative))
    | .keyword .fi => pure (.choice condition positive none)
    | other => unexpected other (some (.keyword .fi))

/-- A loop over words, from its name on. -/
def iteration : (fuel : Nat) → (line : Nat) → Read Command
  | 0, _ => fail "Word too long"
  | fuel + 1, line => do
    match ← next fuel false false false with
    | .word word =>
      match word.plain?.filter isName with
      | none => fail "Bad for loop variable"
      | some name =>
        match ← next fuel true true false with
        | .keyword .in_ => do
          let words ← wordList fuel
          let body ← iterationBody fuel
          pure (.iteration line name words body)
        | other => do
          match other with
          | .operator .semicolon => pure ()
          | _ => putBack other
          let body ← iterationBody fuel
          pure (.iteration line name [[.parameter [64] .value true]] body)
    | _ => fail "Bad for loop variable"

/-- The words of a loop, up to the end of their line. -/
def wordList : (fuel : Nat) → Read (List Word)
  | 0 => fail "Word too long"
  | fuel + 1 => do
    match ← next fuel false false false with
    | .word word => do pure (word :: (← wordList fuel))
    | .newline | .operator .semicolon => pure []
    | other => unexpected other none

/-- The body of a loop over words. -/
def iterationBody : (fuel : Nat) → Read Command
  | 0 => fail "Word too long"
  | fuel + 1 => do
    match ← next fuel true true false with
    | .keyword .do_ => do
      let body ← body fuel
      expect fuel (.keyword .done)
      pure body
    | other => unexpected other (some (.keyword .do_))

/-- A selection, from its subject on. -/
def selection : (fuel : Nat) → (line : Nat) → Read Command
  | 0, _ => fail "Word too long"
  | fuel + 1, line => do
    match ← next fuel false false false with
    | .word subject =>
      match ← next fuel true true false with
      | .keyword .in_ => do pure (.selection line subject (← cases fuel))
      | other => unexpected other (some (.keyword .in_))
    | other => unexpected other (some (.word []))

/-- The cases of a selection. -/
def cases : (fuel : Nat) → Read (List (List Word × Option Command))
  | 0 => fail "Word too long"
  | fuel + 1 => do
    match ← next fuel true true false with
    | .keyword .esac => pure []
    | first => do
      let first ←
        match first with
        | .operator .leftParen => next fuel false false false
        | other => pure other
      let patterns ← patterns fuel first
      let body ← list fuel .any none
      match ← next fuel true true false with
      | .keyword .esac => pure [(patterns, body)]
      | .operator .endCase => do pure ((patterns, body) :: (← cases fuel))
      | other => unexpected other (some (.operator .endCase))

/-- The patterns of a case; the first token of them is read already. -/
def patterns : (fuel : Nat) → Token → Read (List Word)
  | 0, _ => fail "Word too long"
  | fuel + 1, first => do
    let word : Word :=
      match first with
      | .word word => word
      | .keyword k => [.text (Text.encode k.text) false]
      | _ => []
    match ← next fuel false false false with
    | .operator .pipe => do
      let later ← next fuel false false false
      pure (word :: (← patterns fuel later))
    | .operator .rightParen => pure [word]
    | other => unexpected other (some (.operator .rightParen))

/-- A simple command, behind what is read of it already; or the definition of a function. -/
def simple : (fuel : Nat) → (line : Nat) → List (Bytes × Word) → List Word → List Redirection →
    Read Command
  | 0, _, _, _, _ => fail "Word too long"
  | fuel + 1, line, bindings, words, redirections => do
    match ← next fuel false false words.isEmpty with
    | .word word =>
      match if words.isEmpty then word.binding? else none with
      | some binding => simple fuel line (bindings ++ [binding]) words redirections
      | none => simple fuel line bindings (words ++ [word]) redirections
    | .redirection descriptor kind => do
      let redirection ← target fuel descriptor kind
      simple fuel line bindings words (redirections ++ [redirection])
    | .operator .leftParen =>
      match bindings, words, redirections with
      | [], [word], [] => do
        expect fuel (.operator .rightParen)
        match word.plain?.filter isFunctionName with
        | some name => do pure (.definition name (← command fuel true true))
        | none => fail "Bad function name"
      | _, _, _ => do
        putBack (.operator .leftParen)
        pure (.simple line bindings words redirections)
    | other => do
      putBack other
      pure (.simple line bindings words redirections)

end

end Read

/-! ### A text -/

/-- The beginning of a text. -/
def Cursor.ofText (text : Bytes) : Cursor := ⟨text, 1, none, [], [], [], []⟩

/-- The text is read to its end. -/
def Cursor.isAtEnd (c : Cursor) : Bool :=
  match c.early with
  | some .ending => true
  | _ => false

/-- Fuel for a text of some length. -/
def readFuel (length : Nat) : Nat := 16 * (length + 4)

/-- Read the next command; there is none at the end of the text, and an empty line has none
either. -/
def readCommand (fuel : Nat) : Read (Option (Option Command)) := do
  let command? ← Read.list fuel .line none
  match command?, (← Read.cursor).early with
  | none, some .ending => pure none
  | found, _ => pure (some found)

end Orchestrator.Shell
