import Orchestrator.Proofs.Child.Decoding

namespace Orchestrator.Child

/-!
# Endings — how the command of a child ends

A command that cannot be started, that fails, or that is killed has a result like any other. Only
the console can keep the runner from telling it.

* `drain_of_jammed` — on a console that passes nothing on the first line is the last one.
* `Launcher.Speaks` — a child is started, and it writes something.
* `Launcher.passed_result_iff` — a command passes if its child ends by itself, with zero.
* `Launcher.execute_of_silent` — where nothing is written the console has no say.
* `Launcher.execute_never_aborts` — how a command ends at a console that never fails, and at one
  that passes nothing on.
-/

variable {σ π ω : Type}

/-! ### A console that passes nothing on -/

/-- A console that is jammed fails at every line. -/
theorem echo_of_jammed {console : Outlet σ} (jammed : console.Jammed) (line : Bytes) (s : σ) :
    ∃ cause, (echo console line s).1 = .error (.console cause) := by
  rw [echo_apply]
  rcases console.writeAll (Text.encode (Text.decode line)) s with ⟨cause | ⟨⟩, written⟩
  · exact ⟨cause, rfl⟩
  dsimp only
  rcases console.writeAll [Text.newline] written with ⟨cause | ⟨⟩, ended⟩
  · exact ⟨cause, rfl⟩
  obtain ⟨cause, refused⟩ := jammed ended
  dsimp only
  rcases flushed : console.flush ended with ⟨cause | ⟨⟩, after⟩
  · exact ⟨cause, rfl⟩
  · simp [flushed] at refused

/-- The first line that is read is the last one if the console passes nothing on. -/
theorem drain_of_jammed {console : Outlet σ} (jammed : console.Jammed) (schedule : Schedule)
    (count : Nat) (captured : String) {pipes : Pipes} (some_ : ∃ pipe, pipes.left pipe ≠ [])
    (s : σ) : ∃ cause,
      (drain console schedule count captured pipes s).1 = .error (.console cause) := by
  -- the first line that is read cannot be echoed
  fun_induction drain console schedule count captured pipes s with
  | case1 count captured pipes s none =>
    obtain ⟨pipe, some_⟩ := some_
    exact absurd (Pipes.left_of_next?_none none pipe) some_
  | case2 count captured pipes s after closed ih =>
    obtain ⟨pipe, some_⟩ := some_
    refine ih ⟨pipe, ?_⟩
    rwa [Pipes.left_of_next?_closed closed]
  | case3 count captured pipes s pipe line after read fault s' failed =>
    obtain ⟨cause, refused⟩ := echo_of_jammed jammed line s
    rw [failed] at refused
    obtain rfl : fault = .console cause := Except.error.inj refused
    exact ⟨cause, rfl⟩
  | case4 count captured pipes s pipe line after read s' echoed captured' ih =>
    obtain ⟨cause, refused⟩ := echo_of_jammed jammed line s
    rw [echoed] at refused
    cases refused

namespace Launcher

/-! ### Results -/

/-- A child is started, and it writes something. -/
def Speaks (launcher : Launcher π ω) (o : Occasion π ω) : Prop :=
  ∃ behaviour files, launcher.child? o = .ok (behaviour, files) ∧
    ∃ pipe, behaviour.written pipe ≠ []

variable {launcher : Launcher π ω} {o : Occasion π ω}

/-- Only a child that exited with zero has the code zero; one that was killed has not. -/
theorem code_eq_zero_iff {status : Status} : status.code = 0 ↔ status = .exited 0 := by
  cases status with
  | exited code => simp [Status.code]
  | killed signal => simp [Status.code]

/-- A command passes if its child ends by itself, with zero, and in no other case. -/
theorem passed_result_iff : (launcher.result o).passed = true ↔
    ∃ behaviour files, launcher.child? o = .ok (behaviour, files) ∧
      behaviour.status = .exited 0 := by
  unfold result CommandResult.passed
  rcases launcher.child? o with cause | ⟨behaviour, files⟩
  · simp [launchFailureCode]
  · simp [code_eq_zero_iff]

/-- A command that cannot be started tells why. -/
theorem result_of_error {cause : Cause} (refused : launcher.child? o = .error cause) :
    launcher.result o = ⟨launchFailureCode, launchFailureText o.call.command cause⟩ := by
  rw [result, refused]

/-- A failure to start is told in a line. -/
theorem exists_line_launchFailureText (command : CommandLine) (cause : Cause) :
    ∃ line, line ≠ "" ∧ launchFailureText command cause = line ++ "\n" := by
  refine ⟨"failed to spawn `" ++ command.display ++ "`: " ++ cause.text, ?_, rfl⟩
  simp

/-! ### Consoles -/

/-- Where a child writes nothing, or none is started, the console has no say. -/
theorem execute_of_silent (silent : ¬launcher.Speaks o) :
    launcher.runner.execute o.call.command o.call.context o.world
      = (.ok (launcher.result o), launcher.left o) := by
  rw [execute_eq]
  unfold result left
  rcases started : launcher.child? o with cause | ⟨behaviour, files⟩
  · rfl
  have nothing (pipe : Pipe) : behaviour.written pipe = [] := by
    by_contra some_
    exact silent ⟨behaviour, files, started, pipe, some_⟩
  -- nothing is echoed, so the console is never asked
  have empty (pipe : Pipe) : (Pipes.ofStreams (behaviour.written .out)
      (behaviour.written .err)).left pipe = [] := by
    rw [Pipes.left_ofStreams, nothing, Text.lines_nil]
  dsimp only
  rw [drain_of_silent _ _ _ empty, nothing .err, Text.lines_nil]
  rfl

/-- At a console that passes nothing on, a command whose child writes something ends with a fault of
the console. -/
theorem execute_of_jammed (jammed : launcher.console.Jammed) (speaks : launcher.Speaks o) :
    ∃ cause, (launcher.runner.execute o.call.command o.call.context o.world).1
      = .error (.console cause) := by
  obtain ⟨behaviour, files, started, pipe, some_⟩ := speaks
  have left : (Pipes.ofStreams (behaviour.written .out) (behaviour.written .err)).left pipe
      ≠ [] := by
    rwa [Pipes.left_ofStreams, Ne, Text.lines_eq_nil_iff]
  obtain ⟨cause, refused⟩ := drain_of_jammed jammed launcher.schedule 0 "" ⟨pipe, left⟩
    { o.world with files := files }
  rw [execute_eq, started]
  dsimp only
  split
  · next fault after drained =>
    rw [drained] at refused
    obtain rfl : fault = .console cause := Except.error.inj refused
    exact ⟨cause, rfl⟩
  · next captured after drained =>
    rw [drained] at refused
    cases refused

end Launcher

end Orchestrator.Child
