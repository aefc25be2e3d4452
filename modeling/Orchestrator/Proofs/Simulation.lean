import Orchestrator.Proofs.Course
import Orchestrator.Proofs.Delivery

namespace Orchestrator

/-!
# Simulation — runs in related worlds

A run touches its world through two outlets, a runner and the file system, and through nothing else.
If these answer alike in worlds that are related in some way, so do whole runs.

* `Action.Follows` — two actions end alike in related worlds, and leave them related.
* `Outlet.Matches`, `Host.Matches` — outlets and hosts that answer alike.
* `Host.Matches.runMatrix` — a run follows the run of any host that it matches.
-/

variable {σ σ' ε ε' α β π ω ω' : Type}

/-! ### Actions -/

/-- In related worlds both actions end alike, and they leave related worlds behind. -/
def Action.Follows (R : σ → σ' → Prop) (first : Action σ ε α) (second : Action σ' ε α) : Prop :=
  ∀ s s', R s s' → ∃ out t t', first s = (out, t) ∧ second s' = (out, t') ∧ R t t'

namespace Action.Follows

variable {R : σ → σ' → Prop} {first : Action σ ε α} {second : Action σ' ε α}

/-- To do nothing keeps two worlds alike. -/
theorem pure (R : σ → σ' → Prop) (a : α) :
    Follows R (pure a : Action σ ε α) (pure a) :=
  fun s s' related => ⟨.ok a, s, s', rfl, rfl, related⟩

/-- If one part follows the other and what comes after does so for every value, the whole does. -/
theorem bind {next : α → Action σ ε β} {next' : α → Action σ' ε β} (h : Follows R first second)
    (h' : ∀ a, Follows R (next a) (next' a)) : Follows R (first >>= next) (second >>= next') := by
  intro s s' related
  obtain ⟨out, t, t', ends, ends', more⟩ := h s s' related
  cases out with
  | error e => exact ⟨.error e, t, t', bind_of_error ends _, bind_of_error ends' _, more⟩
  | ok a =>
    rw [bind_of_ok ends, bind_of_ok ends']
    exact h' a t t' more

/-- Telling errors in other terms on both sides keeps one behind the other. -/
theorem mapError (f : ε → ε') (h : Follows R first second) :
    Follows R (first.mapError f) (second.mapError f) := by
  intro s s' related
  obtain ⟨out, t, t', ends, ends', more⟩ := h s s' related
  unfold Action.mapError
  rw [ends, ends']
  cases out with
  | error e => exact ⟨.error (f e), t, t', rfl, rfl, more⟩
  | ok a => exact ⟨.ok a, t, t', rfl, rfl, more⟩

end Action.Follows

/-- Related worlds in sessions that agree on whether a heading was logged. -/
def Session.Alike (R : σ → σ' → Prop) (s : Session σ) (s' : Session σ') : Prop :=
  R s.world s'.world ∧ s.headed = s'.headed

/-- What works on a part of a session works alike on the parts of two sessions. -/
theorem Action.Follows.session {R : σ → σ' → Prop} {first : Action σ ε α}
    {second : Action σ' ε α} (h : Follows R first second) :
    Follows (Session.Alike R) (first.within (Session.part σ))
      (second.within (Session.part σ')) := by
  rintro ⟨w, headed⟩ ⟨w', headed'⟩ ⟨related, rfl⟩
  obtain ⟨out, t, t', ends, ends', more⟩ := h w w' related
  refine ⟨out, ⟨t, headed⟩, ⟨t', headed⟩, ?_, ?_, more, rfl⟩
  · rw [within_apply]
    simp only [Part.get, Part.rest, Session.part, ends]
  · rw [within_apply]
    simp only [Part.get, Part.rest, Session.part, ends']

/-! ### Outlets and logs -/

/-- Two outlets that answer alike in related worlds. -/
structure Outlet.Matches (R : σ → σ' → Prop) (o : Outlet σ) (o' : Outlet σ') : Prop where
  write : ∀ bytes ≠ [], ∀ s s', R s s' →
    ∃ offer t t', o.write s bytes = (offer, t) ∧ o'.write s' bytes = (offer, t') ∧ R t t'
  flush : Action.Follows R o.flush o'.flush

namespace Outlet.Matches

variable {R : σ → σ' → Prop} {o : Outlet σ} {o' : Outlet σ'}

/-- Outlets that match write alike. The rounds are the same on both sides, so the induction is on
those of the first. -/
theorem writeAll (h : o.Matches R o') (bytes : Bytes) :
    Action.Follows R (o.writeAll bytes) (o'.writeAll bytes) := by
  intro s s' related
  by_cases empty : bytes = []
  · subst empty
    exact ⟨.ok (), s, s', writeAll_nil o s, writeAll_nil o' s', related⟩
  · -- one round, and the induction is on what is left to be done after it
    obtain ⟨offer, t, t', offered, offered', more⟩ := h.write bytes empty s s' related
    rw [writeAll_of_ne_nil o empty, writeAll_of_ne_nil o' empty, offered, offered']
    match offer, offered with
    | .took 0, _ => exact ⟨_, t, t', rfl, rfl, more⟩
    | .took (n + 1), _ =>
      have : (bytes.drop (n + 1)).length < bytes.length := by
        have := List.length_pos_iff.2 empty
        rw [List.length_drop]
        omega
      exact h.writeAll (bytes.drop (n + 1)) t t' more
    | .interrupted, offered =>
      have : o.patience t < o.patience s := by
        simpa [offered] using o.patience_lt s bytes
      exact h.writeAll bytes t t' more
    | .failed cause, _ => exact ⟨_, t, t', rfl, rfl, more⟩
termination_by s => (bytes.length, o.patience s)

/-- Outlets that match emit alike. -/
theorem emit (h : o.Matches R o') (text : String) :
    Action.Follows R (o.emit text) (o'.emit text) :=
  (h.writeAll _).bind fun _ => h.flush

end Outlet.Matches

/-- Two logs whose outlets answer alike in related worlds. -/
structure Sink.Matches (R : σ → σ' → Prop) (sink : Sink σ) (sink' : Sink σ') : Prop where
  console : sink.console.Matches R sink'.console
  transcript : sink.transcript.Matches R sink'.transcript

namespace Sink.Matches

variable {R : σ → σ' → Prop} {sink : Sink σ} {sink' : Sink σ'}

/-- Sinks that match log alike. -/
theorem log (h : sink.Matches R sink') (text : String) :
    Action.Follows (Session.Alike R) (sink.log text) (sink'.log text) :=
  (((h.console.emit text).mapError _).bind fun _ => (h.transcript.emit text).mapError _).session

/-- Sinks that match log the same headings, because both know the same about earlier ones. -/
theorem heading (h : sink.Matches R sink') (title : String) :
    Action.Follows (Session.Alike R) (sink.heading title) (sink'.heading title) := by
  rintro ⟨w, headed⟩ ⟨w', headed'⟩ ⟨related, rfl⟩
  have line := h.log (Banner.separator.line title)
  cases headed with
  | false => exact line ⟨w, true⟩ ⟨w', true⟩ ⟨related, rfl⟩
  | true => exact (h.log "\n").bind (fun _ => line) ⟨w, true⟩ ⟨w', true⟩ ⟨related, rfl⟩

/-- Sinks that match report the end of a command alike. -/
theorem result (h : sink.Matches R sink') (code : Int) (command errorText : String) :
    Action.Follows (Session.Alike R) (sink.result code command errorText)
      (sink'.result code command errorText) := by
  unfold Sink.result
  split
  · exact h.log _
  · exact (h.log _).bind fun _ => (h.log _).bind fun _ => (h.log _).bind fun _ =>
      (h.log _).bind fun _ => h.log _

end Sink.Matches

/-! ### Hosts -/

/-- Two hosts whose outlets and runners answer alike in related worlds. -/
structure Host.Matches (R : World π ω → World π ω' → Prop) (host : Host π ω)
    (host' : Host π ω') : Prop where
  start : host.start = host'.start
  files : ∀ w w', R w w' → w.files = w'.files
  sink : host.sink.Matches R host'.sink
  runner : ∀ command ctx,
    Action.Follows R (host.runner.execute command ctx) (host'.runner.execute command ctx)

namespace Host.Matches

variable {R : World π ω → World π ω' → Prop} {host : Host π ω} {host' : Host π ω'}

/-- Hosts that match run a command alike, and report the same. -/
theorem validate (h : host.Matches R host') (command : CommandLine) (ctx : Context) :
    Action.Follows (Session.Alike R) (validate host.sink host.runner command ctx)
      (validate host'.sink host'.runner command ctx) :=
  (h.sink.log _).bind fun _ => (h.runner command ctx).session.bind fun _ =>
    (h.sink.result _ _ _).bind fun _ => .pure _ _

/-- Hosts that match run the same commands, up to the same one. -/
theorem validateAll (h : host.Matches R host') (ctx : Context) (commands : List CommandLine) :
    Action.Follows (Session.Alike R) (validateAll host.sink host.runner ctx commands)
      (validateAll host'.sink host'.runner ctx commands) := by
  induction commands with
  | nil => exact .pure _ true
  | cons command rest ih =>
    refine (h.validate command ctx).bind fun passed => ?_
    cases passed with
    | false => exact .pure _ false
    | true => exact ih

/-- What has to be done for a stage depends on the files alone. -/
theorem stageCommands? (h : host.Matches R host') (config : Config) (files : FileSystem π)
    (stage : Stage) :
    host.stageCommands? config files stage = host'.stageCommands? config files stage := by
  cases stage <;> simp only [Host.stageCommands?, h.start]

/-- Hosts that match go through a stage alike, since they find the same commands for it. -/
theorem runStage (h : host.Matches R host') (config : Config) (ctx : Context) (stage : Stage) :
    Action.Follows (Session.Alike R) (host.runStage config ctx stage)
      (host'.runStage config ctx stage) := by
  intro s s' alike
  unfold Host.runStage
  rw [h.files _ _ alike.1, h.stageCommands?]
  rcases host'.stageCommands? config s'.world.files stage with _ | commands
  · exact ⟨.ok false, s, s', rfl, rfl, alike⟩
  · exact h.validateAll ctx commands s s' alike

/-- Hosts that match log the failure line after the same faults. -/
theorem orFailureLine (h : host.Matches R host') {first : Logged (World π ω) α}
    {second : Logged (World π ω') α} (h' : Action.Follows (Session.Alike R) first second) :
    Action.Follows (Session.Alike R) (host.orFailureLine first) (host'.orFailureLine second) := by
  intro s s' alike
  obtain ⟨out, t, t', ends, ends', more⟩ := h' s s' alike
  cases out with
  | ok a =>
    exact ⟨.ok a, t, t', orFailureLine_of_ok ends, orFailureLine_of_ok ends', more⟩
  | error fault =>
    -- both log the line, and what becomes of it is dropped on both sides
    obtain ⟨_, u, u', tried, tried', last⟩ := h.sink.log failureLine t t' more
    refine ⟨.error fault, u, u', ?_, ?_, last⟩
    · rw [orFailureLine_of_error ends, tried]
    · rw [orFailureLine_of_error ends', tried']

/-- Hosts that match go through the same stages of a toolchain. -/
theorem runStages (h : host.Matches R host') (config : Config) (ctx : Context)
    (stages : List Stage) :
    Action.Follows (Session.Alike R) (host.runStages config ctx stages)
      (host'.runStages config ctx stages) := by
  induction stages with
  | nil => exact .pure _ none
  | cons stage rest ih =>
    rw [Host.runStages_cons, Host.runStages_cons]
    -- only one stage has a heading
    have opening : Action.Follows (Session.Alike R)
        (if stage = .buildExamples then host.sink.heading exampleHeading else pure ())
        (if stage = .buildExamples then host'.sink.heading exampleHeading else pure ()) := by
      split
      · exact h.sink.heading exampleHeading
      · exact .pure _ ()
    have staged := h.orFailureLine (h.runStage config ctx stage)
    refine opening.bind fun _ => staged.bind fun passed => ?_
    cases passed with
    | false => exact (h.sink.log failureLine).bind fun _ => .pure _ _
    | true => exact ih

/-- Hosts that match go through the same toolchains, and log the same last line. -/
theorem runToolchains (h : host.Matches R host') (config : Config) (toolchains : List Toolchain) :
    Action.Follows (Session.Alike R) (host.runToolchains config toolchains)
      (host'.runToolchains config toolchains) := by
  induction toolchains with
  | nil => exact (h.sink.log successLine).bind fun _ => .pure _ _
  | cons t rest ih =>
    refine (h.runStages config (config.contextOf t) Stage.all).bind fun out => ?_
    cases out with
    | none => exact ih
    | some stage => exact .pure _ _

/-- **Runs in related worlds.** A run follows the run of any host that it matches: both end alike,
and they leave related worlds behind. -/
theorem runMatrix (h : host.Matches R host') (config : Config) :
    Action.Follows (Session.Alike R) (host.runMatrix config) (host'.runMatrix config) := by
  intro s s' alike
  unfold Host.runMatrix
  rw [h.files _ _ alike.1, h.start]
  split
  · exact (h.sink.heading unitTestHeading).bind (fun _ => h.runToolchains config _) s s' alike
  · exact ⟨_, s, s', rfl, rfl, alike⟩

end Host.Matches

end Orchestrator
