import Orchestrator.Proofs.FirstFault
import Orchestrator.Proofs.Trace
import Orchestrator.Script.Device

namespace Orchestrator

/-!
# The failure line — how a run that did not pass shows in its transcript

A run that does not pass logs the failure line last. It does so as everything is logged, the console
first, so that a console that is gone keeps it from the transcript as well.

* `Host.quiet_of_reliable` — a transcript that never fails has no fault in the diary.
* `Halted.failureLine_or` — a run that a fault ended logged the failure line last, or was kept from
  it by the console.
* `Bench.tallied_history` — what the devices of a bench have taken is what its diary says.
* `Bench.runMatrix_logs_failureLine` — the transcript ends with the failure line, unless the console
  fails at the last thing it is asked.
* `Bench.failureLine_lost` — that can happen.
-/

variable {π ω γ τ ρ : Type}

/-! ### What a diary says of the devices -/

/-- A channel takes what the event of an offer says. -/
theorem Outlet.taken_write (o : Outlet γ) (side : Side) (c : Channel γ) (bytes : Bytes) :
    (o.kept.write c bytes).2.taken.toList
      = c.taken.toList ++ (Event.offered side bytes (o.kept.write c bytes).1).accepted side := by
  obtain ⟨device, taken⟩ := c
  simp only [Outlet.kept]
  rcases o.write device bytes with ⟨n | _ | cause, after⟩
  · simp [Event.accepted]
  · exact (List.append_nil _).symm
  · exact (List.append_nil _).symm

/-- A transcript that never fails answers with no fault. -/
theorem Host.quiet_of_reliable (host : Host π ω) (takes : host.sink.transcript.Reliable)
    (config : Config) (s : Session (World π ω)) :
    ∀ event ∈ host.history config s, event.side? = some .transcript → event.fault? = none := by
  have other {event : Event} (unasked : event.side? ≠ some .transcript) :
      ∀ e ∈ [event], e.side? = some .transcript → e.fault? = none :=
    List.forall_mem_singleton.2 fun asked => absurd asked unasked
  -- each event is added when it happens, and the transcript takes what it is asked to
  have keeps : host.Keeps fun _ diary =>
      ∀ event ∈ diary, event.side? = some .transcript → event.fault? = none := by
    constructor
    · exact fun w diary bytes _ quiet => List.forall_mem_append.2 ⟨quiet, other (by rintro ⟨⟩)⟩
    · exact fun w diary quiet => List.forall_mem_append.2 ⟨quiet, other (by rintro ⟨⟩)⟩
    · intro w diary bytes nonempty quiet
      refine List.forall_mem_append.2 ⟨quiet, List.forall_mem_singleton.2 fun _ => ?_⟩
      rcases takes.write w bytes nonempty with interrupted | ⟨n, took⟩
      · rw [interrupted]
        rfl
      · rw [took]
        rfl
    · intro w diary quiet
      refine List.forall_mem_append.2 ⟨quiet, List.forall_mem_singleton.2 fun _ => ?_⟩
      rw [takes.flush w]
      rfl
    · exact fun w diary command ctx quiet =>
        List.forall_mem_append.2 ⟨quiet, other (by rintro ⟨⟩)⟩
  exact keeps.history config (List.forall_mem_nil _)

/-! ### What stands last -/

/-- The last thing that was asked was asked of this side, and failed. -/
def FailedLast (side : Side) (events : List Event) : Prop :=
  ∃ earlier event, events = earlier ++ [event] ∧ event.side? = some side ∧ event.fault?.isSome

/-- A side whose answers are no faults leaves the last fault to the other. -/
theorem FailedLast.of_quiet {events earlier : List Event} {event : Event} {fault : Fault}
    (quiet : ∀ event ∈ events, event.side? = some .transcript → event.fault? = none)
    (split : events = earlier ++ [event]) (asked : event.side?.isSome)
    (fails : event.fault? = some fault) : FailedLast .console events := by
  refine ⟨earlier, event, split, ?_, by simp [fails]⟩
  rcases side : event.side? with _ | _ | _
  · simp [side] at asked
  · rfl
  · simp [quiet event (by simp [split]) side] at fails

/-- If the transcript answers with no fault, a run that a fault ended has the failure line last in
it, or the console has failed last. -/
theorem Halted.failureLine_or {fault : Fault} {events : List Event} (h : Halted fault events)
    (quiet : ∀ event ∈ events, event.side? = some .transcript → event.fault? = none) :
    FailedLast .console events ∨ Text.encode failureLine <:+ accepted .transcript events := by
  obtain ⟨earlier, event, later, split, -, fails, ⟨rfl, asked⟩ | ⟨out, logged⟩⟩ := h.first
  · exact .inl (.of_quiet quiet split asked fails)
  · match out, logged with
    | .ok (), logged =>
      right
      rw [split, List.append_cons, accepted_append, logged.accepted_eq]
      exact List.suffix_append _ _
    | .error _, logged =>
      -- the failure line was not logged, and the fault that kept it is the last
      obtain ⟨first, last, rfl, -, fails'⟩ := logged.ends
      have asked := logged.isSome_side? last (by simp)
      have split' : events = (earlier ++ event :: first) ++ [last] := by
        rw [split, List.append_assoc, List.cons_append]
      exact .inl (.of_quiet quiet split' asked fails')

/-! ### Runs that a fault ends at once -/

/-- A stage whose first command cannot be run ends there. -/
theorem Host.runStage_of_fault {host : Host π ω} {config : Config} {ctx : Context} {stage : Stage}
    {command : CommandLine} {rest : List CommandLine} {s s' s'' : Session (World π ω)}
    {fault : Fault}
    (found : host.stageCommands? config s.world.files stage = some (command :: rest))
    (announced : host.sink.announce command.display s = (.ok (), s'))
    (ran : (host.runner.execute command ctx).within (Session.part _) s' = (.error fault, s'')) :
    host.runStage config ctx stage s = (.error fault, s'') := by
  have validated : validate host.sink host.runner command ctx s = (.error fault, s'') :=
    (Action.bind_of_ok announced _).trans (Action.bind_of_error ran _)
  simp only [Host.runStage, found]
  exact Action.bind_of_error validated _

/-- A run whose first stage ends with a fault logs the failure line and ends with it. -/
theorem Host.runMatrix_of_fault {host : Host π ω} {config : Config} {t : Toolchain}
    {rest : List Toolchain} {s s' s'' : Session (World π ω)} {fault : Fault}
    (root : s.world.files.isDirectory host.start config.projectRoot = true)
    (toolchains : config.toolchains = t :: rest)
    (headed : host.sink.heading unitTestHeading s = (.ok (), s'))
    (staged : host.runStage config (config.contextOf t) .unitTests s' = (.error fault, s'')) :
    host.runMatrix config s = (.error fault, (host.sink.log failureLine s'').2) := by
  have stages : host.runStages config (config.contextOf t) Stage.all s'
      = (.error fault, (host.sink.log failureLine s'').2) := by
    rw [Stage.all, Host.runStages_cons, if_neg (by decide)]
    exact (Action.bind_of_ok (Action.pure_apply () _) _).trans
      (Action.bind_of_error (Host.orFailureLine_of_error staged) _)
  rw [Host.runMatrix_of_root host config root, Action.bind_of_ok headed, toolchains]
  exact Action.bind_of_error stages _

namespace Bench

variable {console : Outlet γ} {transcript : Outlet τ}

/-- What the devices have taken since the world was `before` is what the diary says. -/
structure Tallied (before : World π (Bench γ τ ρ)) (diary : List Event)
    (w : World π (Bench γ τ ρ)) : Prop where
  console : w.gear.console.taken.toList
    = before.gear.console.taken.toList ++ accepted .console diary
  transcript : w.gear.transcript.taken.toList
    = before.gear.transcript.taken.toList ++ accepted .transcript diary

/-- The world after one more event. -/
theorem Tallied.step {before w w' : World π (Bench γ τ ρ)} {diary : List Event} {event : Event}
    (h : Tallied before diary w)
    (shown : w'.gear.console.taken.toList
      = w.gear.console.taken.toList ++ event.accepted .console)
    (written : w'.gear.transcript.taken.toList
      = w.gear.transcript.taken.toList ++ event.accepted .transcript) :
    Tallied before (diary ++ [event]) w' where
  console := by
    rw [shown, h.console, accepted_append, accepted_cons, accepted_nil, List.append_assoc,
      List.append_nil]
  transcript := by
    rw [written, h.transcript, accepted_append, accepted_cons, accepted_nil, List.append_assoc,
      List.append_nil]

/-- What the devices of a bench take in a run is what the diary says. -/
theorem tallied_history (start : Place) (console : Outlet γ) (transcript : Outlet τ)
    (respond : Responder π ρ) (config : Config) (s : Session (World π (Bench γ τ ρ))) :
    let host := host start console transcript respond
    Tallied s.world (host.history config s) (host.runMatrix config s).2.world := by
  intro host
  -- a device takes nothing while something else is asked
  have other (bytes : Bytes) {event : Event} {side : Side}
      (untaken : event.accepted side = []) : bytes = bytes ++ event.accepted side := by
    rw [untaken, List.append_nil]
  have keeps : host.Keeps fun w diary => Tallied s.world diary w := by
    constructor
    · intro w diary bytes _ h
      exact h.step (console.taken_write .console _ bytes)
        (other _ (Event.accepted_of_ne (by rintro ⟨⟩)))
    · exact fun w diary h => h.step (other _ rfl) (other _ rfl)
    · intro w diary bytes _ h
      exact h.step (other _ (Event.accepted_of_ne (by rintro ⟨⟩)))
        (transcript.taken_write .transcript _ bytes)
    · exact fun w diary h => h.step (other _ rfl) (other _ rfl)
    · exact fun w diary command ctx h => h.step (other _ rfl) (other _ rfl)
  exact keeps.history config ⟨(List.append_nil _).symm, (List.append_nil _).symm⟩

/-! ### The last line -/

/-- **The failure line is logged as far as it goes.** In a project whose root is a directory, with a
transcript that never fails and whatever console and runner, the transcript of a run that failed
ends with the failure line. So does that of a run that ended with a fault, unless the console failed
at the last thing it was asked. After a fault of the runner the log was always given the line. -/
theorem runMatrix_logs_failureLine (takes : transcript.Reliable) (start : Place)
    (console : Outlet γ) (respond : Responder π ρ) (config : Config)
    (s : Session (World π (Bench γ τ ρ)))
    (root : s.world.files.isDirectory start config.projectRoot = true) :
    let host := host start console transcript respond
    let run := host.runMatrix config s
    let history := host.history config s
    let written := run.2.world.gear.transcript.taken.toList
    (∀ compiler stage, run.1 = .ok (.failed compiler stage) →
      Text.encode failureLine <:+ written) ∧
    (∀ fault, run.1 = .error fault → ¬FailedLast .console history →
      Text.encode failureLine <:+ written) ∧
    (∀ earlier call fault later, history = earlier ++ .ran call (.error fault) :: later →
      ∃ out, Logs failureLine later out) := by
  intro host run history written
  have told : Told Halted _ history run.1 := host.told_history config root
  have reliable : host.sink.transcript.Reliable :=
    (takes.kept.within transcriptPart).within (World.gearPart _ _)
  have ends (last : Text.encode failureLine <:+ accepted .transcript history) :
      Text.encode failureLine <:+ written := by
    have all : written = _ := (tallied_history start console transcript respond config s).transcript
    rw [all]
    exact last.trans (List.suffix_append _ _)
  refine ⟨fun compiler stage failed => ?_, fun fault failed reached => ?_,
    fun earlier call fault later split => told.tried split⟩
  · rw [failed] at told
    exact ends told.2
  · rw [failed] at told
    -- either the failure line was logged whole, or the console refused it
    have halted : Halted fault history := told
    exact ends <|
      (halted.failureLine_or (host.quiet_of_reliable reliable config s)).resolve_left reached

/-- A runner whose commands all fail. -/
def allFail : Responder Unit Unit := fun _ _ files => (.ok ⟨1, "no\n"⟩, (), files)

/-- No run with this runner passes, and none ends with a fault. -/
theorem exists_failed_allFail {start : Place} {before : Unit × FileSystem Unit} {legs : List Leg}
    {verdict : Except Fault Outcome}
    (traces : allFail.Traces start rootProject before legs verdict) :
    ∃ compiler stage, verdict = .ok (.failed compiler stage) := by
  have answers : ∀ leg ∈ legs, ∀ deed ∈ leg.deeds, deed.answer = .ok ⟨1, "no\n"⟩ := by
    intro leg mem deed mem'
    obtain ⟨r, files, answer⟩ := traces.exists_answer mem mem'
    exact answer
  rcases verdict with fault | _ | ⟨compiler, stage⟩
  · obtain ⟨leg, mem, deed, mem', stopped⟩ := (traces.stopped_iff fault).1 rfl
    cases (answers leg mem deed mem').symm.trans stopped
  · obtain ⟨rows, each⟩ := traces.passed_iff.1 rfl
    match legs, rows, each with
    | ⟨_, stage, commands?, deeds⟩ :: rest, rows, each =>
      -- the first command of the unit tests would have to succeed
      obtain ⟨⟨rfl, rfl⟩, -⟩ := (List.cons.inj rows).imp_left Prod.mk.inj
      have passed := each _ (.head _)
      have calls := passed.calls_eq (traces.found [] _ rest rfl) .unitTests
      match deeds, passed, calls with
      | deed :: _, passed, _ =>
        obtain ⟨result, ok, zero⟩ := passed.2.2 deed (.head _)
        cases (answers _ (.head _) deed (.head _)).symm.trans ok
        cases zero
  · exact ⟨compiler, stage, rfl⟩

theorem runMatrix_logs_failureLine_allFail :
    let s : Session (World Unit (Bench Unit Unit Unit)) := ⟨⟨.empty, .new () () ()⟩, false⟩
    let run := (host .root Outlet.boundless Outlet.boundless allFail).runMatrix rootProject s
    s.world.files.isDirectory .root rootProject.projectRoot = true ∧ Outlet.boundless.Reliable ∧
    (∃ compiler stage, run.1 = .ok (.failed compiler stage)) ∧
    Text.encode failureLine <:+ run.2.world.gear.transcript.taken.toList := by
  intro s run
  have root : s.world.files.isDirectory .root rootProject.projectRoot = true := by decide
  obtain ⟨legs, traces, -, -⟩ := runMatrix_traces Outlet.reliable_boundless
    Outlet.reliable_boundless .root allFail rootProject s root
  obtain ⟨compiler, stage, failed⟩ := exists_failed_allFail traces
  obtain ⟨reaches, -, -⟩ := runMatrix_logs_failureLine Outlet.reliable_boundless .root
    Outlet.boundless allFail rootProject s root
  exact ⟨root, Outlet.reliable_boundless, ⟨compiler, stage, failed⟩, reaches compiler stage failed⟩

/-! ### A console that is gone -/

/-- A console that cannot pass on the third text it is given. -/
def goneConsole : Script.DeviceScript := ⟨none, none, none, [], [], [2]⟩

/-- A runner whose commands cannot be awaited. -/
def neverAwaited : Responder Unit Unit := fun call _ files =>
  (.error (.wait call.command.display (.words "scripted error")), (), files)

/-- The empty file system, and a bench with the console on which nothing has happened. -/
def beforeGone : Session (World Unit (Bench Script.DeviceState Unit Unit)) :=
  ⟨⟨.empty, .new .new () ()⟩, false⟩

/-- An outlet that takes a text at once passes it on next. -/
theorem emit_of_took {σ : Type} {o : Outlet σ} {text : String} {s after : σ}
    (nonempty : Text.encode text ≠ [])
    (took : o.write s (Text.encode text) = (.took (Text.encode text).length, after)) :
    o.emit text s = o.flush after := by
  obtain ⟨n, long⟩ := Nat.exists_eq_succ_of_ne_zero
    (fun empty => nonempty (List.eq_nil_of_length_eq_zero empty))
  rw [Outlet.emit_apply, Outlet.writeAll_of_ne_nil o nonempty, took, long]
  dsimp only
  rw [← Nat.succ_eq_add_one, ← long, List.drop_length, Outlet.writeAll_nil]

/-- The console that is gone takes every text and fails when the third is to be passed on. -/
theorem goneConsole_emit {text : String} (nonempty : Text.encode text ≠ [])
    (c : Channel Script.DeviceState) :
    ∃ c', goneConsole.outlet.kept.emit text c
        = (if c.device.flushes ∈ [2] then .error (.words "scripted flush failure") else .ok (),
          c') ∧
      c'.device.flushes = c.device.flushes + 1 := by
  obtain ⟨⟨stored, writes, flushes⟩, shown⟩ := c
  let bytes := Text.encode text
  have takes : goneConsole.outlet.kept.write ⟨⟨stored, writes, flushes⟩, shown⟩ bytes
      = (.took bytes.length,
        ⟨⟨stored + bytes.length, writes + 1, flushes⟩, shown ++ bytes.take bytes.length⟩) := rfl
  rw [emit_of_took nonempty takes]
  exact ⟨_, rfl, rfl⟩

/-- A console that is gone keeps the failure line from the transcript: a run that a fault of the
runner ends finds it gone when it logs the line. -/
theorem failureLine_lost :
    let run := (host .root goneConsole.outlet Outlet.boundless neverAwaited).runMatrix rootProject
      beforeGone
    beforeGone.world.files.isDirectory .root rootProject.projectRoot = true ∧
    Outlet.boundless.Reliable ∧
    run.1 = .error (.wait "cmake /" (.words "scripted error")) ∧
    run.2.world.gear.transcript.taken.toList
      = Text.encode "[----------] build and run unit test code\n[ RUN      ] cmake /\n" ∧
    ¬Text.encode failureLine <:+ run.2.world.gear.transcript.taken.toList := by
  intro run
  let host : Host Unit (Bench Script.DeviceState Unit Unit) :=
    host .root goneConsole.outlet Outlet.boundless neverAwaited
  let fault : Fault := .wait "cmake /" (.words "scripted error")
  have root : beforeGone.world.files.isDirectory .root rootProject.projectRoot = true := by decide
  -- the heading and the line of the first command get through
  obtain ⟨t₁, written₁, taken₁⟩ := Outlet.reliable_boundless.exists_emit
    (Banner.separator.line unitTestHeading) beforeGone.world.gear.transcript
  obtain ⟨c₁, shown₁, flushes₁⟩ := goneConsole_emit
    (by decide : Text.encode (Banner.separator.line unitTestHeading) ≠ [])
    beforeGone.world.gear.console
  obtain ⟨t₂, written₂, taken₂⟩ :=
    Outlet.reliable_boundless.exists_emit (Banner.run.line "cmake /") t₁
  obtain ⟨c₂, shown₂, flushes₂⟩ := goneConsole_emit
    (by decide : Text.encode (Banner.run.line "cmake /") ≠ []) c₁
  obtain ⟨c₃, shown₃, -⟩ := goneConsole_emit (by decide : Text.encode failureLine ≠ []) c₂
  rw [flushes₁] at flushes₂ shown₂
  rw [flushes₂] at shown₃
  let w₁ : World Unit (Bench Script.DeviceState Unit Unit) := ⟨.empty, ⟨c₁, t₁, #[], ()⟩⟩
  let w₂ : World Unit (Bench Script.DeviceState Unit Unit) := ⟨.empty, ⟨c₂, t₂, #[], ()⟩⟩
  let call : Call := ⟨⟨"cmake", ["/"]⟩, rootProject.contextOf .gcc⟩
  let w₃ : World Unit (Bench Script.DeviceState Unit Unit) := ⟨.empty, ⟨c₂, t₂, #[call], ()⟩⟩
  have headed : host.sink.heading unitTestHeading beforeGone = (.ok (), ⟨w₁, true⟩) :=
    log_of_emits shown₁ written₁ true
  have announced : host.sink.announce call.command.display ⟨w₁, true⟩ = (.ok (), ⟨w₂, true⟩) :=
    log_of_emits shown₂ written₂ true
  have ran : (host.runner.execute call.command call.context).within (Session.part _) ⟨w₂, true⟩
      = (.error fault, ⟨w₃, true⟩) := rfl
  -- the failure line does not
  have lost : host.sink.log failureLine ⟨w₃, true⟩ = _ :=
    log_of_not_shown shown₃ Outlet.boundless true
  have whole : run = (.error fault, (host.sink.log failureLine ⟨w₃, true⟩).2) :=
    Host.runMatrix_of_fault root rfl headed (Host.runStage_of_fault rfl announced ran)
  rw [lost] at whole
  have written : run.2.world.gear.transcript.taken.toList
      = Text.encode "[----------] build and run unit test code\n[ RUN      ] cmake /\n" := by
    rw [whole]
    show t₂.taken.toList = _
    rw [taken₂, taken₁]
    decide
  refine ⟨root, Outlet.reliable_boundless, congrArg Prod.fst whole, written, ?_⟩
  rw [written]
  decide

end Bench

end Orchestrator
