import Orchestrator.Shell.Arithmetic
import Orchestrator.Shell.Field
import Orchestrator.Shell.Options

namespace Orchestrator.Shell

/-!
# The shell — putting values into words

* `State.parameter` — the value of a parameter.
* `expand` — a word with its values put in.
* `fieldsOf` — the fields of a word: with values put in, split, and with paths in place of patterns.
* `textOfWord` — a word as one text.

What commands write is found by an action that the caller names.
-/

variable {π : Type}

/-! ### Parameters -/

/-- The value of a parameter: a text or none, or all positional parameters. -/
inductive Value where
  | single (text? : Option Bytes)
  /-- All of them, each a field of its own. -/
  | each (texts : List Bytes)
  /-- All of them as one text. -/
  | joined (texts : List Bytes)

/-- The variable with the separators of fields. -/
def separatorsVariable : String := "IFS"

/-- What separates fields. -/
def State.separators (s : State π) : Separators :=
  match s.getText? separatorsVariable with
  | some bytes => ⟨bytes⟩
  | none => .standard

/-- What stands between the positional parameters as one text. -/
def State.joint (s : State π) : Bytes :=
  match s.getText? separatorsVariable with
  | some bytes => bytes.take 1
  | none => [32]

/-- A number as text. -/
def decimal (n : Nat) : Bytes := Text.encode (toString n)

/-- The number that stands for the shell as a process. -/
def processNumber : Nat := 2

/-- The value of a parameter. -/
def State.parameter (s : State π) (name : Bytes) : Value :=
  match name with
  | [64] => .each s.parameters
  | [42] => .joined s.parameters
  | [35] => .single (some (decimal s.parameters.length))
  | [63] => .single (some (decimal s.status))
  | [36] => .single (some (decimal processNumber))
  | [45] => .single (some s.flags)
  | [33] =>
    .single (if s.backgrounds = [] then none
      else some (decimal (processNumber + s.backgrounds.length)))
  | _ =>
    if name.all isDigit then
      match valueOf 10 name with
      | 0 => .single (some s.name)
      | place + 1 => .single s.parameters[place]?
    else .single (s.get? name)

/-- A value as one text, if there is one. -/
def Value.text? (s : State π) : Value → Option Bytes
  | single text? => text?
  | each texts | joined texts => some (s.joint.intercalate texts)

/-- A value where fields are wanted or not; without fields all parameters are one text. -/
def Value.unsplit (s : State π) (splits : Bool) (value : Value) : Value :=
  if splits then value
  else
    match value with
    | single text? => single text?
    | each texts | joined texts => single (some (s.joint.intercalate texts))

/-- The byte that keeps fields apart while something is cut off from all of them. -/
def fieldEnd : UInt8 := 0

/-- A value without the match of a pattern on one side. -/
def Value.trim (s : State π) (quoted : Bool) (pattern : Pattern) (side : Side)
    (longest : Bool) : Value → Value
  | single text? => single (text?.map (pattern.trim side longest))
  | each texts => each (cut texts)
  | joined texts =>
    if quoted then single (some (pattern.trim side longest (s.joint.intercalate texts)))
    else each (cut texts)
where
  /-- The fields without the match, which may go over several of them. -/
  cut (texts : List Bytes) : List Bytes :=
    if texts = [] then []
    else (pattern.trim side longest ([fieldEnd].intercalate texts)).splitOn fieldEnd

/-- A value as it is put into a word. -/
def Value.marks (s : State π) (quoted : Bool) : Value → List Mark
  | single text? => Shell.marks (if quoted then .quoted else .value) (text?.getD [])
  | each texts =>
    if quoted then
      [Mark.boundary].intercalate (texts.map fun text => .presence :: Shell.marks .quoted text)
    else [Mark.boundary].intercalate (texts.map (Shell.marks .value))
  | joined texts =>
    if quoted then Shell.marks .quoted (s.joint.intercalate texts)
    else [Mark.boundary].intercalate (texts.map (Shell.marks .value))

/-! ### Home -/

/-- The variable with the home directory. -/
def homeVariable : String := "HOME"

/-- A text at the beginning of a word, with the home directory put in. `whole` tells that the word
ends with it. -/
def State.withHome (s : State π) (text : Bytes) (whole : Bool) : List Mark :=
  match text, s.getText? homeVariable with
  | 126 :: rest, some home =>
    let goesOn := rest.head? == some Path.slash || (rest = [] && whole)
    if goesOn then marks .quoted home ++ marks .literal rest else marks .literal text
  | _, _ => marks .literal text

/-- The text of a binding; behind every colon it may begin with the home directory. -/
def State.withHomes (s : State π) (text : Bytes) (whole : Bool) : List Mark :=
  let parts := text.splitOn 58
  let shown := parts.mapIdx fun i part =>
    s.withHome part (whole || i + 1 < parts.length)
  (marks .literal [58]).intercalate shown

/-! ### Words -/

/-- What is wanted of a word. -/
structure Wish where
  /-- It becomes fields. -/
  splits : Bool
  /-- It is a value in a binding. -/
  isBinding : Bool
  /-- It stands in place of a value. -/
  isValue : Bool
  /-- It can begin with the home directory. -/
  hasHome : Bool

namespace Wish

/-- A word that becomes fields. -/
def fields : Wish := ⟨true, false, false, true⟩

/-- A word that stays one text. -/
def text : Wish := ⟨false, false, false, true⟩

/-- A value that is bound to a name. -/
def binding : Wish := ⟨false, true, false, true⟩

end Wish

/-- Complain about a parameter without a value. -/
def lacking {α : Type} (name : Bytes) (emptyToo : Bool) (text? : Option Bytes) : Run π α :=
  let standard := if emptyToo then "parameter not set or null" else "parameter not set"
  giveUp (name ++ Text.encode ": " ++ text?.getD (Text.encode standard))

/-- A newline at the end of what commands write is left out, and so are those before it. -/
def withoutLastNewlines (text : Bytes) : Bytes :=
  (text.reverse.dropWhile (· == Read.lineEnd)).reverse

/-- There is nothing in a value. -/
def isMissing (emptyToo : Bool) : Option Bytes → Bool
  | none => true
  | some text => emptyToo && text.isEmpty

mutual

/-- The pieces of a word with their values put in. `isFirst` tells that nothing comes before. -/
def expandFrom (capture : Option Command → Run π Bytes) (wish : Wish) (isFirst : Bool) :
    List Piece → Run π (List Mark)
  | [] => pure []
  | piece :: rest => do
    let first ← expandPiece capture wish isFirst rest.isEmpty piece
    pure (first ++ (← expandFrom capture wish false rest))

/-- A piece with its values put in. -/
def expandPiece (capture : Option Command → Run π Bytes) (wish : Wish) (isFirst isLast : Bool) :
    Piece → Run π (List Mark)
  | .text bytes true => pure (.presence :: marks .quoted bytes)
  | .text bytes false => do
    let s ← Run.state
    let shown :=
      if !wish.hasHome then marks .literal bytes
      else if wish.isBinding then
        if isFirst then s.withHomes bytes isLast
        else
          match bytes.splitOn 58 with
          | [] | [_] => marks .literal bytes
          | before :: later =>
            marks .literal (before ++ [58]) ++ s.withHomes ([58].intercalate later) isLast
      else if isFirst then s.withHome bytes isLast
      else marks .literal bytes
    pure (if wish.isValue then shown.map fun
        | .byte b .literal => .byte b .value
        | other => other
      else shown)
  | .output commands quoted => do
    let text := withoutLastNewlines (← capture commands)
    pure (marks (if quoted then .quoted else .value) text)
  | .arithmetic expression quoted => do
    let text := textOf (← expandFrom capture .text false expression)
    let n ← arithmetic text
    pure (marks (if quoted then .quoted else .value) (Text.encode (toString n)))
  | .parameter name use quoted => expandUse capture wish name quoted use

/-- A parameter with its use. -/
def expandUse (capture : Option Command → Run π Bytes) (wish : Wish) (name : Bytes)
    (quoted : Bool) : Use → Run π (List Mark)
  | .value => do
    let s ← Run.state
    let value := (s.parameter name).unsplit s wish.splits
    match value with
    | .single none =>
      if s.hasOption 'u' then lacking name false none else pure (value.marks s quoted)
    | _ => pure (value.marks s quoted)
  | .length => do
    let s ← Run.state
    match s.parameter name with
    | .single none =>
      if s.hasOption 'u' then lacking name false none else pure (marks .value (decimal 0))
    | value => pure (marks (if quoted then .quoted else .value)
        (decimal ((value.text? s).getD []).length))
  | .fallback emptyToo word => do
    let s ← Run.state
    let value := (s.parameter name).unsplit s wish.splits
    if isMissing emptyToo (value.text? s) then
      expandFrom capture { wish with isValue := !quoted } true word
    else pure (value.marks s quoted)
  | .replace emptyToo word => do
    let s ← Run.state
    if isMissing emptyToo ((s.parameter name).text? s) then pure []
    else expandFrom capture { wish with isValue := !quoted } true word
  | .assign emptyToo word => do
    let s ← Run.state
    let value := (s.parameter name).unsplit s wish.splits
    if isMissing emptyToo (value.text? s) then
      let text := textOf (← expandFrom capture .text true word)
      if isName name then
        set name text
        pure (marks (if quoted then .quoted else .value) text)
      else giveUp (about name "bad variable name")
    else pure (value.marks s quoted)
  | .demand emptyToo word => do
    let s ← Run.state
    let value := (s.parameter name).unsplit s wish.splits
    if isMissing emptyToo (value.text? s) then
      let text := textOf (← expandFrom capture .text true word)
      lacking name emptyToo (if word = [] then none else some text)
    else pure (value.marks s quoted)
  | .trim side longest word => do
    let s ← Run.state
    let value := (s.parameter name).unsplit s wish.splits
    match value.text? s with
    | none => if s.hasOption 'u' then lacking name false none else pure []
    | some _ =>
      let pattern := Pattern.ofSigns (signsOf (← expandFrom capture .text true word))
      pure ((value.trim s quoted pattern side longest).marks s quoted)
  | .unknown => giveUp (Text.encode "Bad substitution")

end

/-- A word with its values put in. -/
def expand (capture : Option Command → Run π Bytes) (wish : Wish) (word : Word) :
    Run π (List Mark) := expandFrom capture wish true word

/-- A word as one text. -/
def textOfWord (capture : Option Command → Run π Bytes) (word : Word) : Run π Bytes := do
  pure (textOf (← expand capture .text word))

/-- A field with paths in its place, if it is a pattern that some fit. -/
def State.paths (s : State π) (field : Field) : List Bytes :=
  if s.hasOption 'f' || !isOpen field then [field.text]
  else
    match pathnames s.files s.directory field with
    | [] => [field.text]
    | paths => paths

/-- The fields of a word as texts. -/
def fieldsOf (capture : Option Command → Run π Bytes) (word : Word) : Run π (List Bytes) := do
  let marks ← expand capture .fields word
  let s ← Run.state
  pure ((split s.separators marks).flatMap s.paths)

end Orchestrator.Shell
