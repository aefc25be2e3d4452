import Orchestrator.Child.Program
import Orchestrator.Outlet
import Orchestrator.Fault
import Orchestrator.Text.Lines

namespace Orchestrator.Child

/-!
# Children — reading both pipes of a child

A child's output and its error stream are read from two pipes, line by line and side by side, so
that neither can fill up and hold the child. Every line is echoed to the console; the lines of the
error stream are captured as well.

* `Schedule` — from which pipe the next line is taken, as long as both are open.
* `Pipes` — what is still to be read; a pipe whose lines are read has yet to be found closed.
* `drain` — read until both pipes are closed.
-/

/-- The pipe that is read next, by the number of reads made. -/
abbrev Schedule : Type := Nat → Pipe

/-- What is still to be read from each pipe; nothing once it is closed. -/
structure Pipes where
  out : Option (List Bytes)
  err : Option (List Bytes)
  deriving DecidableEq, Repr

namespace Pipes

/-- How many reads a pipe still takes, the one that finds it closed included. -/
def reads : Option (List Bytes) → Nat
  | none => 0
  | some lines => lines.length + 1

/-- How many reads there are until both pipes are closed. -/
def remaining (p : Pipes) : Nat := reads p.out + reads p.err

/-- The pipes of a child that writes the given bytes. -/
def ofStreams (out err : Bytes) : Pipes := ⟨some (Text.lines out), some (Text.lines err)⟩

/-- What a read finds: that a pipe is closed, or a line. -/
inductive Read where
  | closed
  | line (pipe : Pipe) (bytes : Bytes)
  deriving DecidableEq, Repr

/-- Read once from a pipe: what is found, and what is then still to be read. -/
def readOnce (pipe : Pipe) : List Bytes → Read × Option (List Bytes)
  | [] => (.closed, none)
  | line :: rest => (.line pipe line, some rest)

/-- Read once, from the preferred pipe if it is open and else from the other; nothing can be read
once both are closed. -/
def next? (p : Pipes) (preferred : Pipe) : Option (Read × Pipes) :=
  match p.out, p.err, preferred with
  | none, none, _ => none
  | some lines, none, _ | some lines, some _, .out =>
    let (read, rest) := readOnce .out lines
    some (read, { p with out := rest })
  | none, some lines, _ | some _, some lines, .err =>
    let (read, rest) := readOnce .err lines
    some (read, { p with err := rest })

theorem remaining_of_next? {p after : Pipes} {preferred : Pipe} {read : Read}
    (h : p.next? preferred = some (read, after)) : after.remaining + 1 = p.remaining := by
  rcases p with ⟨_ | _ | ⟨a, as⟩, _ | _ | ⟨b, bs⟩⟩ <;> cases preferred <;>
    simp_all [next?, readOnce, remaining, reads] <;> (obtain ⟨_, rfl⟩ := h; simp) <;> omega

end Pipes

variable {σ : Type}

/-- A line as it is shown and captured. -/
def shown (line : Bytes) : String := Text.decode line ++ "\n"

/-- Echo one line to the console, and pass it on at once. -/
def echo (console : Outlet σ) (line : Bytes) : Action σ Fault Unit :=
  Action.mapError .console do
    console.writeAll (Text.encode (Text.decode line))
    console.writeAll [Text.newline]
    console.flush

/-- Read until both pipes are closed, from the `count`-th read on; returns the captured text, which
begins with `captured`. -/
def drain (console : Outlet σ) (schedule : Schedule) (count : Nat) (captured : String)
    (pipes : Pipes) : Action σ Fault String := fun s =>
  match h : pipes.next? (schedule count) with
  | none => (.ok captured, s)
  | some (.closed, after) => drain console schedule (count + 1) captured after s
  | some (.line pipe line, after) =>
    match echo console line s with
    | (.error fault, s) => (.error fault, s)
    | (.ok (), s) =>
      let captured := if pipe = .err then captured ++ shown line else captured
      drain console schedule (count + 1) captured after s
termination_by pipes.remaining
decreasing_by all_goals have := Pipes.remaining_of_next? h; omega

end Orchestrator.Child
