import Orchestrator.Child.Drain
import Orchestrator.Proofs.Delivery

namespace Orchestrator.Child

/-!
# Reading — what comes out of the pipes of a child

The loop that reads both pipes of a child echoes a line whenever it has read one. Without its
echoes it is a list of lines: those of both pipes, in an order that only the schedule knows.

* `readings` — the lines in the order in which they are read.
* `linesOf_readings` — of each pipe they are all its lines, in their order.
* `map_readings` — if there is nothing in one pipe, they are the lines of the other.
* `captured_of_drain` — what is captured, whatever the console does.
* `drain_eq` — reading echoes them one after another, and captures those of the error stream.
-/

/-! ### Lines in the order in which they are read -/

/-- The lines that are still to be read from a pipe. -/
def Pipes.left (p : Pipes) : Pipe → List Bytes
  | .out => p.out.getD []
  | .err => p.err.getD []

/-- The lines of one pipe among lines of both. -/
def linesOf (pipe : Pipe) (read : List (Pipe × Bytes)) : List Bytes :=
  (read.filter (·.1 == pipe)).map (·.2)

namespace Pipes

variable {p after : Pipes} {preferred pipe : Pipe} {line : Bytes}

/-- Before anything is read, all lines of a pipe are left in it. -/
theorem left_ofStreams (behaviour : Behaviour) (pipe : Pipe) :
    (ofStreams (behaviour.written .out) (behaviour.written .err)).left pipe
      = Text.lines (behaviour.written pipe) := by
  cases pipe <;> rfl

/-- When no reading is to come, nothing is left in the pipes. -/
theorem left_of_next?_none (h : p.next? preferred = none) (pipe : Pipe) : p.left pipe = [] := by
  rcases p with ⟨_ | _, _ | _⟩ <;> cases preferred <;> cases pipe <;> simp_all [next?, left]

/-- Finding a pipe closed takes nothing out of either. -/
theorem left_of_next?_closed (h : p.next? preferred = some (.closed, after)) (pipe : Pipe) :
    after.left pipe = p.left pipe := by
  rcases p with ⟨_ | _ | ⟨a, as⟩, _ | _ | ⟨b, bs⟩⟩ <;> cases preferred <;>
    simp_all [next?, readOnce] <;> subst h <;> cases pipe <;> rfl

/-- A reading takes the next line out of its pipe, and the other pipe keeps its own. -/
theorem left_of_next?_line (h : p.next? preferred = some (.line pipe line, after)) :
    p.left pipe = line :: after.left pipe ∧
      ∀ other, other ≠ pipe → p.left other = after.left other := by
  rcases p with ⟨_ | _ | ⟨a, as⟩, _ | _ | ⟨b, bs⟩⟩ <;> cases preferred <;>
    simp_all [next?, readOnce] <;> obtain ⟨⟨rfl, rfl⟩, rfl⟩ := h <;> simp [left] <;>
    rintro ⟨⟩ <;> simp

end Pipes

/-- The lines that are read from two pipes, from the `count`-th read on. -/
def readings (schedule : Schedule) (count : Nat) (pipes : Pipes) : List (Pipe × Bytes) :=
  match h : pipes.next? (schedule count) with
  | none => []
  | some (.closed, after) => readings schedule (count + 1) after
  | some (.line pipe line, after) => (pipe, line) :: readings schedule (count + 1) after
termination_by pipes.remaining
decreasing_by all_goals have := Pipes.remaining_of_next? h; omega

/-- The readings, told from the first on: a closed pipe gives none. -/
theorem readings_eq (schedule : Schedule) (count : Nat) (pipes : Pipes) :
    readings schedule count pipes = match pipes.next? (schedule count) with
      | none => []
      | some (.closed, after) => readings schedule (count + 1) after
      | some (.line pipe line, after) => (pipe, line) :: readings schedule (count + 1) after := by
  rw [readings]
  split <;> simp [*]

/-- Of each pipe all lines are read, and in their order. -/
theorem linesOf_readings (schedule : Schedule) (count : Nat) (pipes : Pipes) (pipe : Pipe) :
    linesOf pipe (readings schedule count pipes) = pipes.left pipe := by
  fun_induction readings schedule count pipes with
  | case1 count pipes none => exact (Pipes.left_of_next?_none none pipe).symm
  | case2 count pipes after closed ih => rw [ih, Pipes.left_of_next?_closed closed]
  | case3 count pipes from_ line after read ih =>
    obtain ⟨taken, others⟩ := Pipes.left_of_next?_line read
    by_cases same : from_ = pipe
    · subst same
      rw [taken, ← ih]
      simp [linesOf]
    · rw [others pipe (Ne.symm same), ← ih]
      simp [linesOf, same]

/-- If there is nothing in one pipe, the lines are those of the other. -/
theorem map_readings (schedule : Schedule) (count : Nat) {pipes : Pipes} {silent other : Pipe}
    (differ : silent ≠ other) (nothing : pipes.left silent = []) :
    (readings schedule count pipes).map (·.2) = pipes.left other := by
  rw [← linesOf_readings schedule count pipes, linesOf] at nothing
  rw [← linesOf_readings schedule count pipes, linesOf, List.filter_eq_self.2]
  intro entry mem
  have missing := List.filter_eq_nil_iff.1 (List.map_eq_nil_iff.1 nothing) entry mem
  cases pipe : entry.1 <;> cases silent <;> cases other <;> simp_all

/-! ### The loop -/

variable {σ : Type} {console : Outlet σ}

/-- Echo lines one after another. -/
def echoAll (console : Outlet σ) (lines : List Bytes) (s : σ) : σ :=
  lines.foldl (fun s line => (echo console line s).2) s

/-- A line is written, then a newline, and both are passed on. -/
theorem echo_apply (console : Outlet σ) (line : Bytes) (s : σ) :
    echo console line s = match console.writeAll (Text.encode (Text.decode line)) s with
      | (.error cause, after) => (.error (.console cause), after)
      | (.ok (), written) =>
        match console.writeAll [Text.newline] written with
        | (.error cause, after) => (.error (.console cause), after)
        | (.ok (), ended) =>
          match console.flush ended with
          | (.error cause, after) => (.error (.console cause), after)
          | (.ok (), after) => (.ok (), after) := by
  unfold echo
  rw [Action.mapError, Action.bind_apply]
  rcases console.writeAll (Text.encode (Text.decode line)) s with ⟨_ | ⟨⟩, written⟩
  · rfl
  dsimp only
  rw [Action.bind_apply]
  rcases console.writeAll [Text.newline] written with ⟨_ | ⟨⟩, ended⟩
  · rfl
  dsimp only
  rcases console.flush ended with ⟨_ | ⟨⟩, after⟩ <;> rfl

/-- A console that does not fail takes every line. -/
theorem echo_of_reliable (reliable : console.Reliable) (line : Bytes) (s : σ) :
    (echo console line s).1 = .ok () := by
  have text := reliable.writeAll (Text.encode (Text.decode line)) s
  -- a line, its newline and the flush; none of the three fails
  rw [echo_apply]
  rcases written : console.writeAll (Text.encode (Text.decode line)) s with ⟨_ | ⟨⟩, s₁⟩
  · simp [written] at text
  have ending := reliable.writeAll [Text.newline] s₁
  dsimp only
  rcases ended : console.writeAll [Text.newline] s₁ with ⟨_ | ⟨⟩, s₂⟩
  · simp [ended] at ending
  have passed := reliable.flush s₂
  dsimp only
  rcases flushed : console.flush s₂ with ⟨_ | ⟨⟩, s₃⟩
  · simp [flushed] at passed
  · rfl

/-- What is captured of a line that is read, and of all lines that are left after it. -/
theorem Pipes.captured_of_line {p after : Pipes} {preferred pipe : Pipe} {line : Bytes}
    (h : p.next? preferred = some (.line pipe line, after)) (captured : String) :
    (if pipe = .err then captured ++ shown line else captured)
        ++ String.join ((after.left .err).map shown) =
      captured ++ String.join ((p.left .err).map shown) := by
  obtain ⟨taken, others⟩ := left_of_next?_line h
  cases pipe with
  | err => simp [taken, String.append_assoc]
  | out => simp [others .err (by decide)]

/-- **What the loop captures.** Whatever the console does, the loop captures all lines of the error
stream if it comes to its end. -/
theorem captured_of_drain {schedule : Schedule} {count : Nat} {captured text : String}
    {pipes : Pipes} {s s' : σ} (h : drain console schedule count captured pipes s = (.ok text, s')) :
    text = captured ++ String.join ((pipes.left .err).map shown) := by
  fun_induction drain console schedule count captured pipes s with
  | case1 count captured pipes s none =>
    cases h
    rw [Pipes.left_of_next?_none none]
    simp
  | case2 count captured pipes s after closed ih => rw [ih h, Pipes.left_of_next?_closed closed]
  | case3 count captured pipes s pipe line after read fault s'' failed => cases h
  | case4 count captured pipes s pipe line after read s'' echoed captured' ih =>
    exact (ih h).trans (Pipes.captured_of_line read captured)

/-- Where there is nothing to read the loop does nothing. -/
theorem drain_of_silent (schedule : Schedule) (count : Nat) (captured : String) {pipes : Pipes}
    (silent : ∀ pipe, pipes.left pipe = []) (s : σ) :
    drain console schedule count captured pipes s = (.ok captured, s) := by
  fun_induction drain console schedule count captured pipes s with
  | case1 count captured pipes s none => rfl
  | case2 count captured pipes s after closed ih =>
    exact ih fun pipe => (Pipes.left_of_next?_closed closed pipe).trans (silent pipe)
  | case3 count captured pipes s pipe line after read fault s' failed =>
    cases (Pipes.left_of_next?_line read).1.symm.trans (silent pipe)
  | case4 count captured pipes s pipe line after read s' echoed captured' ih =>
    cases (Pipes.left_of_next?_line read).1.symm.trans (silent pipe)

/-- **What the loop does.** On a console that never fails it comes to its end. By then it has echoed
the lines of both pipes, in the order in which they were read, and captured those of the error
stream. -/
theorem drain_eq (reliable : console.Reliable) (schedule : Schedule) (count : Nat)
    (captured : String) (pipes : Pipes) (s : σ) :
    drain console schedule count captured pipes s =
      (.ok (captured ++ String.join ((pipes.left .err).map shown)),
        echoAll console ((readings schedule count pipes).map (·.2)) s) := by
  fun_induction drain console schedule count captured pipes s with
  | case1 count captured pipes s none =>
    rw [readings_eq, none, Pipes.left_of_next?_none none]
    simp [echoAll]
  | case2 count captured pipes s after closed ih =>
    rw [ih, readings_eq schedule count, closed, Pipes.left_of_next?_closed closed]
  | case3 count captured pipes s pipe line after read fault s' failed =>
    -- the console does not fail
    have ok := echo_of_reliable reliable line s
    simp [failed] at ok
  | case4 count captured pipes s pipe line after read s' echoed captured' ih =>
    -- a line of the error stream is captured, and one of the other is only echoed
    have text : captured' ++ String.join ((after.left .err).map shown) =
        captured ++ String.join ((pipes.left .err).map shown) :=
      Pipes.captured_of_line read captured
    rw [ih, text, readings_eq schedule count, read]
    simp [echoAll, echoed]

end Orchestrator.Child
