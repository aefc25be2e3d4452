import Orchestrator.Action
import Orchestrator.Shell.Syntax

namespace Orchestrator.Shell

/-!
# The shell — a place in its text

* `Cursor` — what is still to be read, and what was read of it too early.
* `Token` — what a command is made of.
* `Trouble` — why a text cannot be read.
* `peek`, `skip`, `run` — reading bytes. A backslash at the end of a line joins it with the next.
-/

/-- A word that has a meaning of its own where a command can begin. -/
inductive Keyword where
  | not
  | case_
  | do_
  | done
  | elif
  | else_
  | esac
  | fi
  | for_
  | if_
  | in_
  | then_
  | until_
  | while_
  | opening
  | close
  deriving DecidableEq, Repr

namespace Keyword

/-- The spelling of a keyword. -/
def text : Keyword → String
  | not => "!"
  | case_ => "case"
  | do_ => "do"
  | done => "done"
  | elif => "elif"
  | else_ => "else"
  | esac => "esac"
  | fi => "fi"
  | for_ => "for"
  | if_ => "if"
  | in_ => "in"
  | then_ => "then"
  | until_ => "until"
  | while_ => "while"
  | opening => "\x7b"
  | close => "\x7d"

/-- All keywords. -/
def all : List Keyword :=
  [not, case_, do_, done, elif, else_, esac, fi, for_, if_, in_, then_, until_, while_, opening,
    close]

/-- The keyword that is spelled so. -/
def ofBytes? (word : Bytes) : Option Keyword := all.find? fun k => Text.encode k.text == word

/-- The keyword ends a list of commands. -/
def endsList : Keyword → Bool
  | do_ | done | elif | else_ | esac | fi | then_ | close => true
  | _ => false

end Keyword

/-- The operators of the language. -/
inductive Operator where
  | semicolon
  | ampersand
  | and
  | or
  | pipe
  | leftParen
  | rightParen
  | endCase
  deriving DecidableEq, Repr

/-- The spelling of an operator. -/
def Operator.text : Operator → String
  | semicolon => ";"
  | ampersand => "&"
  | and => "&&"
  | or => "||"
  | pipe => "|"
  | leftParen => "("
  | rightParen => ")"
  | endCase => ";;"

/-- What a redirection does, before its word is read. -/
inductive Redirecting where
  | file (opening : Opening)
  | duplicate
  | document (stripsTabs : Bool)
  deriving DecidableEq, Repr

/-- What a command is made of. -/
inductive Token where
  | ending
  | newline
  | operator (o : Operator)
  | redirection (descriptor : Nat) (kind : Redirecting)
  | word (w : Word)
  | keyword (k : Keyword)

/-- A token as complaints name it. -/
def Token.name : Token → String
  | ending => "end of file"
  | newline => "newline"
  | operator o => "\"" ++ o.text ++ "\""
  | redirection _ _ => "redirection"
  | word _ => "word"
  | keyword k => "\"" ++ k.text ++ "\""

/-- The token ends a list of commands inside another command. -/
def Token.endsList : Token → Bool
  | ending | operator .rightParen | operator .endCase => true
  | keyword k => k.endsList
  | _ => false

/-- A here-document whose text is still to be read. -/
structure Pending where
  number : Nat
  delimiter : Bytes
  isQuoted : Bool
  stripsTabs : Bool

/-- What is still to be read, from which line on, the token that was read too early, the
here-documents, and the aliases, with those that are being read: each up to where so much is
left. -/
structure Cursor where
  rest : Bytes
  line : Nat
  early : Option Token
  pending : List Pending
  documents : List (Nat × Word)
  aliases : List (Bytes × Bytes)
  expanding : List (Bytes × Nat)

/-- A text cannot be read from some line on. -/
structure Trouble where
  line : Nat
  text : String
  deriving Repr

/-- Reading that goes on from a cursor. -/
abbrev Read (α : Type) : Type := Action Cursor Trouble α

namespace Read

/-- The bytes that mean something in the language. -/
def backslash : UInt8 := 92
def singleQuote : UInt8 := 39
def doubleQuote : UInt8 := 34
def dollar : UInt8 := 36
def backQuote : UInt8 := 96
def hash : UInt8 := 35
def openParen : UInt8 := 40
def closeParen : UInt8 := 41
def closeBrace : UInt8 := 125

/-- The byte of a new line. -/
def lineEnd : UInt8 := 10

/-- Where the reading stands. -/
def cursor : Read Cursor := fun c => (.ok c, c)

/-- Give up. -/
def fail {α : Type} (text : String) : Read α := fun c => (.error ⟨c.line, text⟩, c)

/-- Give up at a token that does not fit, and maybe tell which one would. -/
def unexpected {α : Type} (found : Token) (wanted? : Option Token) : Read α :=
  let wanted := (wanted?.map fun w => " (expecting " ++ w.name ++ ")").getD ""
  fail (found.name ++ " unexpected" ++ wanted)

/-- The bytes without the joins they begin with, and the number of these. -/
def withoutJoins : Bytes → Bytes × Nat
  | 92 :: 10 :: rest =>
    let (bytes, joins) := withoutJoins rest
    (bytes, joins + 1)
  | bytes => (bytes, 0)

/-- The next byte, behind joins. -/
def peek : Read (Option UInt8) := fun c =>
  let (rest, joins) := withoutJoins c.rest
  (.ok rest.head?, { c with rest := rest, line := c.line + joins })

/-- How many lines end in the bytes. -/
def lineCount (bytes : Bytes) : Nat := bytes.count lineEnd

/-- Take so many bytes as they are. -/
def take (count : Nat) : Read Bytes := fun c =>
  let taken := c.rest.take count
  (.ok taken, { c with rest := c.rest.drop count, line := c.line + lineCount taken })

/-- Go on behind the next byte. -/
def skip : Read Unit := do
  let _ ← take 1

/-- Take the bytes up to the first that does not pass a test. -/
def run (test : UInt8 → Bool) : Read Bytes := fun c =>
  take (c.rest.takeWhile test).length c

/-- Read an alias in place of its name; tells whether the word is the name of one that is not being
read. -/
def expandAlias (name : Bytes) : Read Bool := fun c =>
  let isRead := c.expanding.any fun (other, left) => other == name && left ≤ c.rest.length
  match if isRead then none else c.aliases.lookup name with
  | some value =>
    (.ok true, { c with
      rest := value ++ c.rest
      expanding := (name, c.rest.length) :: c.expanding })
  | none => (.ok false, c)

/-- Take a token back, to be read again. -/
def putBack (token : Token) : Read Unit := fun c => (.ok (), { c with early := some token })

/-- Announce a here-document, whose text comes later; returns its number. It is empty till then. -/
def announce (delimiter : Bytes) (isQuoted stripsTabs : Bool) : Read Nat := fun c =>
  let number := c.documents.length
  (.ok number, { c with
    documents := (number, []) :: c.documents
    pending := c.pending ++ [⟨number, delimiter, isQuoted, stripsTabs⟩] })

/-- Do an action as if no here-documents were announced before. Those that the action announces and
whose texts it does not read are empty. -/
def withoutPending {α : Type} (action : Read α) : Read α := fun c =>
  let (outcome, after) := action { c with pending := [] }
  (outcome, { after with pending := c.pending })

/-- Do an action on a text of its own, which begins at some line, and go on behind it in the old
text. -/
def aside {α : Type} (line : Nat) (text : Bytes) (action : Read α) : Read α := fun c =>
  let (outcome, after) :=
    action { c with rest := text, line := line, early := none, pending := [], expanding := [] }
  (outcome, { c with documents := after.documents })

end Read

end Orchestrator.Shell
