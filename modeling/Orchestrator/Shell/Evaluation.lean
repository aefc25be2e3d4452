import Orchestrator.Shell.Call

namespace Orchestrator.Shell

/-!
# The shell — carrying out commands

* `Means.inLoop` — rounds that can be left.
* `Means.pipeline` — commands side by side.
* `Means.step` — one command, with those inside it carried out by the means.
* `means` — the means with some depth of commands inside one another.
-/

variable {π : Type}

namespace Means

variable (m : Means π)

/-! ### Loops -/

/-- How a round of a loop ends. -/
inductive Round where
  | finished
  | left
  | again
  deriving DecidableEq, Repr

/-- Do a round of a loop. -/
def round (action : Run π Unit) : Run π Round := fun s =>
  match action s with
  | (.ok (), after) => (.ok .finished, after)
  | (.error (.leave loops), after) =>
    if loops ≤ 1 then (.ok .left, after) else (.error (.leave (loops - 1)), after)
  | (.error (.again loops), after) =>
    if loops ≤ 1 then (.ok .again, after) else (.error (.again (loops - 1)), after)
  | (.error stop, after) => (.error stop, after)

/-- A loop makes at most so many rounds. -/
def roundLimit : Nat := 200000

/-- Repeat a step with a code that it keeps, as long as it tells to go on. -/
def repeatUpTo (step : Nat → Run π (Nat × Bool)) : (limit : Nat) → Nat → Run π Nat
  | 0, _ => Run.stop .spent
  | limit + 1, code => fun s =>
    match step code s with
    | (.error stop, after) => (.error stop, after)
    | (.ok (code, true), after) => repeatUpTo step limit code after
    | (.ok (code, false), after) => (.ok code, after)

/-- Do an action as a loop, which can be left; it returns a code. -/
def inLoop (action : Run π Nat) : Run π Unit := fun s =>
  let counted := do
    Run.modify fun s => { s with loops := s.loops + 1 }
    Run.setStatus (← action)
  Run.undoing counted (fun after => { after with loops := s.loops }) s

/-- One round of a loop with a condition, behind a round with some code. -/
def conditionalRound (standing : Standing) (untilSuccess : Bool) (condition body : Command)
    (code : Nat) : Run π (Nat × Bool) := do
  match ← round (m.perform .tested condition) with
  | .left => pure (code, false)
  | .again => pure (code, true)
  | .finished =>
    if ((← Run.state).status = 0) = untilSuccess then pure (code, false)
    else
      let ending ← round (m.perform standing body)
      pure ((← Run.state).status, ending != .left)

/-- The rounds of a loop over words, behind a round with some code. -/
def wordRounds (standing : Standing) (name : Bytes) (body : Command) : List Bytes → Nat → Run π Nat
  | [], code => pure code
  | word :: rest, _ => do
    set name word
    let ending ← round (m.perform standing body)
    let code := (← Run.state).status
    if ending = .left then pure code else wordRounds standing name body rest code

/-! ### Commands put together -/

/-- End if the command failed, unless it is tested or failures are no reason to end. -/
def checked (standing : Standing) (action : Run π Unit) : Run π Unit := do
  action
  m.heedAll
  let s ← Run.state
  if s.hasOption 'e' && !standing.isTested && s.status != 0 then Run.stop .exit

/-- The signal that ends a command that goes on writing when nobody reads. -/
def pipeSignal : Nat := 13

/-- A command that others read from. If it goes on forever, it ends when they do. -/
def read (action : Run π Child.Status) : Run π Child.Status := fun s =>
  match action s with
  | (.error .spent, after) => (.ok (.killed pipeSignal), after)
  | other => other

/-- Carry out commands side by side, each of which reads what the one before writes; tells how they
end. -/
def pipes (standing : Standing) (input? : Option Bytes) :
    List Command → Run π (List Child.Status)
  | [] => pure []
  | command :: rest => do
    let index := (← Run.state).streams.size
    let isRead := rest ≠ []
    let action := m.subshell do
      if isRead then Run.modify (·.attach outputDescriptor (.sink []))
      match input? with
      | some input => Run.modify (·.attach inputDescriptor (.source input))
      | none => pure ()
      m.perform { standing with isLast := true } command
    let status ← if isRead then read action else action
    let s ← Run.state
    let written := if isRead then s.taken index else []
    pure (status :: (← pipes standing (some written) rest))

/-- Carry out commands side by side, and end as the last one does. -/
def pipeline (standing : Standing) (commands : List Command) : Run π Unit := do
  let statuses ← m.pipes standing none commands
  let codes ← statuses.mapM tellEnd
  Run.setStatus (codes.getLast?.getD 0)

/-- The text of a word fits one of some patterns. -/
def fits (text : Bytes) : List Word → Run π Bool
  | [] => pure false
  | word :: rest => do
    let pattern := Pattern.ofSigns (signsOf (← expand m.capture .text word))
    if pattern.isMatch text then pure true else fits text rest

/-- Carry out the first case that a text fits. -/
def selectCase (standing : Standing) (text : Bytes) :
    List (List Word × Option Command) → Run π Unit
  | [] => Run.setStatus 0
  | (patterns, body?) :: rest => do
    if ← m.fits text patterns then
      match body? with
      | some body => m.perform standing body
      | none => Run.setStatus 0
    else selectCase standing text rest

/-- Keep in mind which line runs. -/
def atLine (line : Nat) : Run π Unit := Run.modify fun s => { s with line := line }

/-- Do an action in a shell of its own, with descriptors that lead to targets. -/
def towards (targets : List Target) (action : Run π Unit) : Run π Unit := do
  if ← redirect m.capture targets then action
  else
    Run.setStatus mistakeCode
    Run.stop .mistake

/-- Carry out a command in a shell of its own, which has nothing to read. -/
def aside (command : Command) : Run π Child.Status :=
  let idle (action : Run π Unit) : Run π Child.Status := m.subshell do
    Run.modify (·.attach inputDescriptor .nothing)
    action
  match command with
  | .redirected line command redirections => do
    atLine line
    let targets ← targetsOf m.capture redirections
    idle (m.towards targets (m.perform .last command))
  | command => idle (m.perform .last command)

/-- Carry out one command. -/
def step (standing : Standing) : Command → Run π Unit
  | .simple line bindings words redirections =>
    m.checked standing (m.simple standing line bindings words redirections)
  | .pipeline commands => m.checked standing (m.pipeline standing commands)
  | .negation command => do
    m.perform .tested command
    Run.setStatus (if (← Run.state).status = 0 then 1 else 0)
  | .conjunction first second => do
    m.perform .tested first
    if (← Run.state).status = 0 then m.perform standing second
  | .disjunction first second => do
    m.perform .tested first
    if (← Run.state).status ≠ 0 then m.perform standing second
  | .sequence first second => do
    m.perform standing.inside first
    m.perform standing second
  | .background command => do
    let status ← m.aside command
    Run.modify fun s => { s with backgrounds := s.backgrounds ++ [status], status := 0 }
  | .subshell line command redirections => m.checked standing do
    atLine line
    let targets ← targetsOf m.capture redirections
    let action := m.towards targets (m.perform { standing with isLast := true } command)
    endWith standing (← m.subshell action)
  | .redirected line command redirections => do
    atLine line
    let targets ← targetsOf m.capture redirections
    redirecting redirections do
      if ← redirect m.capture targets then m.perform standing.inside command
      else m.checked standing (Run.setStatus mistakeCode)
  | .choice condition positive negative? => do
    m.perform .tested condition
    if (← Run.state).status = 0 then m.perform standing positive
    else
      match negative? with
      | some negative => m.perform standing negative
      | none => Run.setStatus 0
  | .loop untilSuccess condition body =>
    let step := m.conditionalRound standing.inside untilSuccess condition body
    inLoop (repeatUpTo step roundLimit 0)
  | .iteration line name words body => do
    atLine line
    let fields ← words.mapM (fieldsOf m.capture)
    inLoop (m.wordRounds standing.inside name body fields.flatten 0)
  | .selection line subject cases => do
    atLine line
    m.selectCase standing (← textOfWord m.capture subject) cases
  | .definition name body => Run.modify fun s =>
    { s with
      functions := (name, body) :: s.functions.filter (·.1 != name)
      status := 0 }

end Means

/-- Commands are inside one another at most so deep. -/
def depthLimit : Nat := 20000

/-- The means for commands inside one another as deep as given. -/
def means (machine : Child.Machine π) : (depth : Nat) → Means π
  | 0 => ⟨machine, fun _ _ => Run.stop .spent⟩
  | depth + 1 =>
    let inner := means machine depth
    ⟨machine, fun standing command => do
      if !(← Run.state).hasOption 'n' then inner.step standing command⟩

end Orchestrator.Shell
