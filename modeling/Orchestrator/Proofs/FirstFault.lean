import Orchestrator.Proofs.Diary
import Orchestrator.Proofs.Moves

namespace Orchestrator

/-!
# The first fault — what a run does until something fails, and then

A run that keeps a diary shows in which order things happen, whatever its outlets and its runner do.

* `Announced` — a command is run only when both sides have taken the same bytes, and these end with
  the line that announces it.
* `Sound`, `Broken`, `Halted` — the diary of a part of a run: without a fault, up to the first, and
  up to the end.
* `Notes.told_bind` — parts of a run compose; the loops of a run follow from it.
* `Host.runMatrix_stops_at_first_fault` — no command is run after the first fault, at most the
  failure line is logged, and the run ends with that fault.
-/

variable {α β π ω : Type}

/-! ### Announcements -/

/-- Whenever a command was run, both sides had taken the same bytes, and at last the line that
announces it. -/
def Announced (events : List Event) : Prop :=
  ∀ earlier call answer later, events = earlier ++ .ran call answer :: later →
    accepted .console earlier = accepted .transcript earlier ∧
    Text.encode (Banner.run.line call.command.display) <:+ accepted .transcript earlier

namespace Announced

variable {first events : List Event}

/-- Events may follow announced ones if each command among them finds both sides even, with its line
as the last. -/
theorem append_of (h : Announced first)
    (h' : ∀ earlier call answer later, events = earlier ++ .ran call answer :: later →
      accepted .console (first ++ earlier) = accepted .transcript (first ++ earlier) ∧
      Text.encode (Banner.run.line call.command.display)
        <:+ accepted .transcript (first ++ earlier)) :
    Announced (first ++ events) := by
  intro earlier call answer later split
  -- the command is in the second part, or is its first event, or is in the first part
  rcases List.append_eq_append_iff.1 split with ⟨gap, rfl, rest⟩ | ⟨_ | ⟨event, gap⟩, begun, rest⟩
  · exact h' gap call answer later rest
  · obtain rfl : first = earlier := by rw [begun, List.append_nil]
    simpa using h' [] call answer later rest.symm
  · obtain ⟨rfl, -⟩ := List.cons.inj rest
    exact h earlier call answer gap begun

/-- Announced events may follow announced ones if both sides have taken the same bytes between. -/
theorem append (h : Announced first) (h' : Announced events)
    (even : accepted .console first = accepted .transcript first) :
    Announced (first ++ events) := by
  refine h.append_of fun earlier call answer later split => ?_
  obtain ⟨same, ends⟩ := h' earlier call answer later split
  rw [accepted_append, accepted_append, even, same]
  exact ⟨rfl, ends.trans (List.suffix_append _ _)⟩

/-- Where no command is run there is nothing to announce. -/
theorem append_of_side (h : Announced first) (asked : ∀ event ∈ events, event.side?.isSome) :
    Announced (first ++ events) := by
  refine h.append_of fun earlier call answer later split => ?_
  have none := asked (.ran call answer) (by simp [split])
  cases none

/-- Where no command is run, none is run unannounced. -/
theorem of_side (asked : ∀ event ∈ events, event.side?.isSome) : Announced events := by
  have none : Announced [] := fun earlier call answer later split => by simp at split
  exact none.append_of_side asked

/-- A command that is run when its line was logged is announced. -/
theorem of_logs {call : Call} {answer : Except Fault CommandResult}
    (h : Logs (Banner.run.line call.command.display) events (.ok ())) :
    Announced (events ++ [.ran call answer]) := by
  refine (of_side h.isSome_side?).append_of fun earlier call' answer' later split => ?_
  match earlier, split with
  | [], split =>
    obtain ⟨same, -⟩ := List.cons.inj split
    obtain ⟨rfl, rfl⟩ := Event.ran.inj same
    rw [List.append_nil, h.accepted_eq, h.accepted_eq]
    exact ⟨rfl, List.suffix_rfl⟩
  | _ :: earlier, split => simp at split

end Announced

/-! ### Parts of a run -/

/-- Events of a part that goes on: no fault, and both sides have taken the same. -/
structure Sound (events : List Event) : Prop where
  quiet : Quiet events
  even : accepted .console events = accepted .transcript events
  announced : Announced events

/-- Events up to the first fault. -/
structure Broken (fault : Fault) (events : List Event) : Prop where
  ends : Ends events (.error fault)
  announced : Announced events

/-- Events up to the end of a run that a fault ended. After a fault of the runner the failure line
is logged once, as far as it goes; after a fault of a side either that is done or nothing. -/
structure Halted (fault : Fault) (events : List Event) : Prop where
  first : ∃ earlier event later, events = earlier ++ event :: later ∧ Quiet earlier ∧
    event.fault? = some fault ∧
    ((later = [] ∧ event.side?.isSome) ∨ ∃ out, Logs failureLine later out)
  announced : Announced events

/-- Where nothing happened, nothing failed. -/
theorem sound_nil : Sound [] where
  quiet := List.forall_mem_nil _
  even := rfl
  announced := .of_side (List.forall_mem_nil _)

/-- Sound events after sound ones are sound as a whole. -/
theorem Sound.append {first events : List Event} (h : Sound first) (h' : Sound events) :
    Sound (first ++ events) where
  quiet := List.forall_mem_append.2 ⟨h.quiet, h'.quiet⟩
  even := by rw [accepted_append, accepted_append, h.even, h'.even]
  announced := h.announced.append h'.announced h.even

/-- A way to end that is the same after any sound part. -/
def Absorbs (E : Fault → List Event → Prop) : Prop :=
  ∀ fault first events, Sound first → E fault events → E fault (first ++ events)

/-- What broke at some time broke, however much sound work came before. -/
theorem absorbs_broken : Absorbs Broken := by
  rintro fault first events sound ⟨ends, announced⟩
  exact ⟨ends.append sound.quiet, sound.announced.append announced sound.even⟩

/-- What was halted was halted, however much sound work came before. -/
theorem absorbs_halted : Absorbs Halted := by
  rintro fault first events sound ⟨⟨earlier, event, later, rfl, quiet, fails, tried⟩, announced⟩
  refine ⟨⟨first ++ earlier, event, later, ?_, ?_, fails, tried⟩, ?_⟩
  · rw [List.append_assoc]
  · exact List.forall_mem_append.2 ⟨sound.quiet, quiet⟩
  · exact sound.announced.append announced sound.even

/-! ### Texts -/

namespace Logs

variable {text : String} {events : List Event} {fault : Fault}

/-- A text that was logged is a sound part of a run. -/
theorem sound (h : Logs text events (.ok ())) : Sound events where
  quiet := h.ends
  even := by rw [h.accepted_eq, h.accepted_eq]
  announced := .of_side h.isSome_side?

/-- A text that could not be logged breaks the part that it belongs to. -/
theorem broken (h : Logs text events (.error fault)) : Broken fault events where
  ends := h.ends
  announced := .of_side h.isSome_side?

/-- A text that could not be logged halts a run, since nothing was asked after it. -/
theorem halted (h : Logs text events (.error fault)) : Halted fault events := by
  obtain ⟨earlier, event, split, quiet, fails⟩ := h.ends
  have asked := h.isSome_side? event (by simp [split])
  exact ⟨⟨earlier, event, [], split, quiet, fails, .inl ⟨rfl, asked⟩⟩, .of_side h.isSome_side?⟩

end Logs

/-! ### Composition -/

/-- The part went on, and its last text was `last`; or it ended as `E` says. -/
def Told (E : Fault → List Event → Prop) (last : α → String) (events : List Event) :
    Except Fault α → Prop
  | .ok a => Sound events ∧ Text.encode (last a) <:+ accepted .transcript events
  | .error fault => E fault events

/-- **Composition.** A part follows another, or gives the result of that in other terms. -/
theorem Notes.told_bind {E : Fault → List Event → Prop} (absorbs : Absorbs E)
    {first : Logged (World π (Watched ω)) α} {next : α → Logged (World π (Watched ω)) β}
    {before : α → String} {last : β → String} (h : Notes first (Told E before))
    (h' : ∀ a, Notes (next a) (Told E last) ∨ ∃ b, next a = Pure.pure b ∧ last b = before a) :
    Notes (first >>= next) (Told E last) := by
  -- what follows is told by itself, or adds nothing to what was told
  have rest : ∀ a, Notes (next a) fun events out =>
      Told E last events out ∨ events = [] ∧ ∃ b, out = .ok b ∧ last b = before a := by
    intro a
    rcases h' a with follows | ⟨b, same, text⟩
    · exact follows.mono fun _ _ => .inl
    · rw [same]
      exact .pure (.inr ⟨rfl, b, rfl, text⟩)
  refine h.bind rest (fun _ _ => id) ?_
  rintro a events events' out ⟨sound, ends⟩ (told | ⟨rfl, b, rfl, text⟩)
  · cases out with
    | ok b => exact ⟨sound.append told.1, by
        rw [accepted_append]
        exact told.2.trans (List.suffix_append _ _)⟩
    | error fault => exact absorbs fault events events' sound told
  · rw [List.append_nil]
    exact ⟨sound, text ▸ ends⟩

/-- To do nothing is sound, and leaves no line. -/
theorem Notes.told_pure {E : Fault → List Event → Prop} (a : α) :
    Notes (Pure.pure a : Logged (World π (Watched ω)) α) (Told E fun _ => "") :=
  .pure ⟨sound_nil, List.nil_suffix⟩

/-- The last text of a part need not be told. -/
theorem Notes.untold {E : Fault → List Event → Prop} {action : Logged (World π (Watched ω)) α}
    {last : α → String} (h : Notes action (Told E last)) :
    Notes action (Told E fun _ => "") := by
  refine h.mono fun events out told => ?_
  match out, told with
  | .ok _, told => exact ⟨told.1, List.nil_suffix⟩
  | .error _, told => exact told

namespace Host

variable (host : Host π ω) {E : Fault → List Event → Prop}

/-- A text that is logged is the last that stands there; else it is told how the log failed. -/
theorem told_log {text : String}
    (ends : ∀ {fault events}, Logs text events (.error fault) → E fault events) :
    Notes (host.watched.sink.log text) (Told E fun _ => text) := by
  refine (host.notes_log text).mono fun events out h => ?_
  match out, h with
  | .ok (), h =>
    have whole : accepted .transcript events = Text.encode text := h.accepted_eq .transcript
    exact ⟨h.sound, whole ▸ List.suffix_rfl⟩
  | .error _, h => exact ends h

/-- A heading leaves its line last. An empty line may come before it. -/
theorem told_heading (title : String) :
    Notes (host.watched.sink.heading title)
      (Told Halted fun _ => Banner.separator.line title) := by
  rintro ⟨w, headed⟩
  have line : Notes (host.watched.sink.log (Banner.separator.line title))
      (Told Halted fun _ => Banner.separator.line title) := host.told_log Logs.halted
  cases headed with
  | false => exact line ⟨w, true⟩
  | true =>
    exact (host.told_log Logs.halted).told_bind absorbs_halted (fun _ => .inl line) ⟨w, true⟩

/-! ### Commands -/

/-- The lines about the end of a command leave both sides even. -/
theorem told_result (code : Int) (command errorText : String) :
    Notes (host.watched.sink.result code command errorText) (Told Broken fun _ => "") := by
  -- all lines about a result are logged alike, and none of them is an announcement
  have line (text : String) : Notes (host.watched.sink.log text) (Told Broken fun _ => "") :=
    (host.told_log Logs.broken).untold
  unfold Sink.result
  split
  · exact line _
  · exact (line _).told_bind absorbs_broken fun _ => .inl <|
      (line _).told_bind absorbs_broken fun _ => .inl <|
      (line _).told_bind absorbs_broken fun _ => .inl <|
      (line _).told_bind absorbs_broken fun _ => .inl (line _)

/-- A command is announced, and then it is run. -/
theorem told_announced_execute (call : Call) :
    Notes (host.watched.sink.announce call.command.display >>= fun _ =>
        (host.watched.runner.execute call.command call.context).within (Session.part _))
      (Told Broken fun _ => "") := by
  refine (host.notes_log _).bind (fun _ => host.notes_execute call) (fun _ _ => Logs.broken) ?_
  rintro ⟨⟩ events _ out logged rfl
  -- the line is just what both sides have taken when the command is run
  have announced : Announced (events ++ [.ran call out]) := .of_logs logged
  cases out with
  | error fault => exact ⟨.append logged.ends ⟨[], _, rfl, List.forall_mem_nil _, rfl⟩, announced⟩
  | ok result =>
    refine ⟨⟨?_, ?_, announced⟩, List.nil_suffix⟩
    · exact List.forall_mem_append.2 ⟨logged.ends, List.forall_mem_singleton.2 rfl⟩
    · rw [accepted_append, accepted_append, logged.sound.even]
      rfl

/-- A command that was run and reported leaves both sides even. -/
theorem told_validate (command : CommandLine) (ctx : Context) :
    Notes (validate host.watched.sink host.watched.runner command ctx)
      (Told Broken fun _ => "") := by
  unfold validate
  rw [← bind_assoc]
  exact (host.told_announced_execute ⟨command, ctx⟩).told_bind absorbs_broken fun result => .inl <|
    (host.told_result _ _ _).told_bind absorbs_broken fun _ => .inl (.told_pure _)

/-- So do commands one after another. -/
theorem told_validateAll (ctx : Context) (commands : List CommandLine) :
    Notes (validateAll host.watched.sink host.watched.runner ctx commands)
      (Told Broken fun _ => "") := by
  induction commands with
  | nil => exact .told_pure true
  | cons command rest ih =>
    rw [validateAll_cons]
    refine (host.told_validate command ctx).told_bind absorbs_broken fun passed => .inl ?_
    cases passed with
    | false => exact .told_pure false
    | true => exact ih

/-! ### Stages and toolchains -/

variable (config : Config)

/-- So does a stage, which may have no commands at all. -/
theorem told_runStage (ctx : Context) (stage : Stage) :
    Notes (host.watched.runStage config ctx stage) (Told Broken fun _ => "") := by
  intro s
  unfold runStage
  rcases host.watched.stageCommands? config s.world.files stage with _ | commands
  · exact Notes.told_pure false s
  · exact host.told_validateAll ctx commands s

/-- After the first fault the failure line is logged, as far as it goes. -/
theorem told_orFailureLine {action : Logged (World π (Watched ω)) α}
    (h : Notes action (Told Broken fun _ => "")) :
    Notes (host.watched.orFailureLine action) (Told Halted fun _ => "") := by
  intro s
  obtain ⟨events, added, told⟩ := h s
  rcases done : action s with ⟨fault | a, after⟩
  · rw [done] at added told
    rw [orFailureLine_of_error done]
    obtain ⟨tried, added', logged⟩ := host.notes_log failureLine after
    -- the diary ended with the fault, and what is tried now comes behind it
    obtain ⟨⟨earlier, event, rfl, quiet, fails⟩, announced⟩ := told
    refine ⟨earlier ++ event :: tried, ?_, ⟨earlier, event, tried, rfl, quiet, fails,
      .inr ⟨_, logged⟩⟩, ?_⟩
    · show ((host.watched.sink.log failureLine after).2).diary = _
      rw [added', added, List.append_assoc, List.append_assoc, List.singleton_append]
    · rw [List.append_cons]
      exact announced.append_of_side logged.isSome_side?
  · rw [done] at added told
    rw [orFailureLine_of_ok done]
    exact ⟨events, added, told⟩

/-- The line that stands last under a toolchain, if something did not pass. -/
def closingLine : Option Stage → String
  | none => ""
  | some _ => failureLine

/-- The stages of a toolchain leave the failure line last, if one of them did not pass. -/
theorem told_runStages (ctx : Context) (stages : List Stage) :
    Notes (host.watched.runStages config ctx stages) (Told Halted closingLine) := by
  induction stages with
  | nil => exact .pure ⟨sound_nil, List.nil_suffix⟩
  | cons stage rest ih =>
    -- the heading, the stage, and then either the other stages or the failure line
    have opening : Notes
        (if stage = .buildExamples then host.watched.sink.heading exampleHeading else pure ())
        (Told Halted fun _ => "") := by
      split
      · exact (host.told_heading exampleHeading).untold
      · exact .told_pure ()
    rw [runStages_cons]
    refine opening.told_bind absorbs_halted fun _ => .inl <|
      (host.told_orFailureLine (host.told_runStage config ctx stage)).told_bind absorbs_halted
        fun passed => .inl ?_
    cases passed with
    | false =>
      exact (host.told_log Logs.halted).told_bind absorbs_halted
        fun _ => .inr ⟨some stage, rfl, rfl⟩
    | true => exact ih

/-- The last line of a run is the one of its outcome. -/
theorem told_runToolchains (toolchains : List Toolchain) :
    Notes (host.watched.runToolchains config toolchains)
      (Told Halted fun outcome => lastLine (.ok outcome)) := by
  induction toolchains with
  | nil =>
    exact (host.told_log Logs.halted).told_bind absorbs_halted fun _ => .inr ⟨.passed, rfl, rfl⟩
  | cons t rest ih =>
    refine (host.told_runStages config _ Stage.all).told_bind absorbs_halted fun out => ?_
    cases out with
    | none => exact .inl ih
    | some stage => exact .inr ⟨.failed t.id stage, rfl, rfl⟩

/-- The diary of a run tells how it ended. -/
theorem told_history {s : Session (World π ω)}
    (root : s.world.files.isDirectory host.start config.projectRoot = true) :
    Told Halted (fun outcome => lastLine (.ok outcome)) (host.history config s)
      (host.runMatrix config s).1 := by
  obtain ⟨events, added, told⟩ := (host.told_heading unitTestHeading).told_bind absorbs_halted
    (fun _ => .inl (host.told_runToolchains config config.toolchains)) s.watched
  obtain ⟨w, watched, -⟩ := host.watched_runMatrix config s
  have begun := host.watched.runMatrix_of_root config (s := s.watched) root
  rw [← begun, watched] at told
  rw [← begun] at added
  have whole : host.history config s = events := added
  rwa [whole]

/-- A run whose root is no directory asks for nothing. -/
theorem history_of_not_root {s : Session (World π ω)}
    (root : ¬s.world.files.isDirectory host.start config.projectRoot = true) :
    host.history config s = [] := by
  have rejected := host.watched.runMatrix_of_not_root config (s := s.watched) root
  rw [history, rejected]
  rfl

end Host

/-! ### The first fault -/

/-- Events have one first fault at most. -/
theorem first_fault_unique {earlier earlier' later later' : List Event} {event event' : Event}
    {fault fault' : Fault} (same : earlier ++ event :: later = earlier' ++ event' :: later')
    (quiet : Quiet earlier) (quiet' : Quiet earlier') (fails : event.fault? = some fault)
    (fails' : event'.fault? = some fault') : event = event' ∧ later = later' := by
  rcases List.append_eq_append_iff.1 same with
    ⟨_ | ⟨other, gap⟩, begun, rest⟩ | ⟨_ | ⟨other, gap⟩, begun, rest⟩
  · exact List.cons.inj rest
  · -- the first fault of the one would be among the quiet events of the other
    obtain ⟨rfl, -⟩ := List.cons.inj rest
    simp [quiet' event (by simp [begun])] at fails
  · obtain ⟨rfl, rfl⟩ := List.cons.inj rest
    exact ⟨rfl, rfl⟩
  · obtain ⟨rfl, -⟩ := List.cons.inj rest
    simp [quiet event' (by simp [begun])] at fails'

/-- What stands after the first fault is the failure line, as far as it was logged. -/
theorem Halted.of_first_fault {fault fault' : Fault} {events earlier later : List Event}
    {event : Event} (h : Halted fault events) (split : events = earlier ++ event :: later)
    (quiet : Quiet earlier) (fails : event.fault? = some fault') :
    fault' = fault ∧ ((later = [] ∧ event.side?.isSome) ∨ ∃ out, Logs failureLine later out) := by
  obtain ⟨before, first, after, split', quiet', fails', tried⟩ := h.first
  obtain ⟨rfl, rfl⟩ := first_fault_unique (split.symm.trans split') quiet quiet' fails fails'
  exact ⟨Option.some.inj (fails.symm.trans fails'), tried⟩

/-- A fault of the runner is the first. -/
theorem Halted.quiet_of_ran {fault fault' : Fault} {events earlier later : List Event}
    {call : Call} (h : Halted fault events)
    (split : events = earlier ++ .ran call (.error fault') :: later) : Quiet earlier := by
  obtain ⟨before, first, after, split', quiet, -, tried⟩ := h.first
  rcases List.append_eq_append_iff.1 (split.symm.trans split') with
    ⟨gap, rfl, -⟩ | ⟨_ | ⟨other, gap⟩, rfl, rest⟩
  · exact fun event mem => quiet event (List.mem_append_left _ mem)
  · rwa [List.append_nil]
  · -- the call would be among the events of the failure line
    obtain ⟨rfl, rfl⟩ := List.cons.inj rest
    rcases tried with ⟨none, -⟩ | ⟨out, logged⟩
    · simp at none
    · cases logged.isSome_side? (.ran call (.error fault')) (by simp)

namespace Told

variable {last : α → String} {events : List Event} {out : Except Fault α}

/-- However a run ended, every command in it was announced. -/
theorem announced (h : Told Halted last events out) : Announced events := by
  match out, h with
  | .ok _, h => exact h.1.announced
  | .error fault, h =>
    have halted : Halted fault events := h
    exact halted.announced

/-- No command is run after the first fault, and that is the fault a run ends with. -/
theorem of_first_fault (h : Told Halted last events out) {earlier later : List Event}
    {event : Event} {fault : Fault} (split : events = earlier ++ event :: later)
    (quiet : Quiet earlier) (fails : event.fault? = some fault) :
    out = .error fault ∧ (∀ call answer, .ran call answer ∉ later) ∧
      (later = [] ∨ ∃ out, Logs failureLine later out) := by
  match out, h with
  | .ok a, h =>
    have none := h.1.quiet event (by simp [split])
    simp [none] at fails
  | .error fault', h =>
    have halted : Halted fault' events := h
    obtain ⟨rfl, tried⟩ := halted.of_first_fault split quiet fails
    refine ⟨rfl, fun call answer mem => ?_, tried.imp And.left id⟩
    rcases tried with ⟨rfl, -⟩ | ⟨out, logged⟩
    · cases mem
    · cases logged.isSome_side? _ mem

/-- After a fault of the runner the failure line is logged, as far as it goes. -/
theorem tried (h : Told Halted last events out) {earlier later : List Event} {call : Call}
    {fault : Fault} (split : events = earlier ++ .ran call (.error fault) :: later) :
    ∃ out, Logs failureLine later out := by
  match out, h with
  | .ok a, h => cases h.1.quiet (.ran call (.error fault)) (by simp [split])
  | .error fault', h =>
    have halted : Halted fault' events := h
    obtain ⟨-, tried⟩ := halted.of_first_fault split (halted.quiet_of_ran split) rfl
    exact tried.resolve_left fun stopped => by cases stopped.2

end Told

/-- **The first fault ends a run.** Whatever outlets and runner do, a command is run only when both
sides have taken the same bytes, and these end with its line. After the first fault no command is
run, and at most the failure line is logged; the run ends with that fault. A run that ends with a
fault had one, unless its root was no directory and it asked for nothing. The bytes are those that
the log was given: what a runner writes to the console itself, such as the lines of a child, is not
counted. -/
theorem Host.runMatrix_stops_at_first_fault (host : Host π ω) (config : Config)
    (s : Session (World π ω)) :
    let run := host.runMatrix config s
    let history := host.history config s
    (∃ w, host.watched.runMatrix config s.watched = (run.1, w) ∧ w.diary = history ∧
      watchedPart.get w.world = run.2.world ∧ w.headed = run.2.headed) ∧
    (∀ earlier call answer later, history = earlier ++ .ran call answer :: later →
      accepted .console earlier = accepted .transcript earlier ∧
      Text.encode (Banner.run.line call.command.display) <:+ accepted .transcript earlier) ∧
    (∀ earlier event later fault, history = earlier ++ event :: later → Quiet earlier →
      event.fault? = some fault →
      run.1 = .error fault ∧ (∀ call answer, .ran call answer ∉ later) ∧
      (later = [] ∨ ∃ out, Logs failureLine later out)) ∧
    (∀ fault, run.1 = .error fault →
      (∃ earlier event later, history = earlier ++ event :: later ∧ Quiet earlier ∧
        event.fault? = some fault) ∨
      history = [] ∧ fault = .projectRoot config.projectRoot) := by
  intro run history
  have erased : ∃ w, host.watched.runMatrix config s.watched = (run.1, w) ∧ w.diary = history ∧
      watchedPart.get w.world = run.2.world ∧ w.headed = run.2.headed := by
    obtain ⟨w, watched, same, headed⟩ := host.watched_runMatrix config s
    exact ⟨w, watched, (congrArg (fun r => r.2.diary) watched).symm, same, headed⟩
  refine ⟨erased, ?_⟩
  by_cases root : s.world.files.isDirectory host.start config.projectRoot = true
  · have told : Told Halted _ history run.1 := host.told_history config root
    refine ⟨told.announced, fun _ _ _ _ split quiet fails => told.of_first_fault split quiet fails,
      fun fault failed => ?_⟩
    rw [failed] at told
    obtain ⟨earlier, event, later, split, quiet, fails, -⟩ := told.first
    exact .inl ⟨earlier, event, later, split, quiet, fails⟩
  · -- nothing was asked
    have nothing : history = [] := host.history_of_not_root config root
    have rejected : run = _ := host.runMatrix_of_not_root config root
    rw [nothing, rejected]
    refine ⟨?_, ?_, ?_⟩
    · intro earlier call answer later split
      simp at split
    · intro earlier event later fault split
      simp at split
    · intro fault same
      exact .inr ⟨rfl, (Except.error.inj same).symm⟩

end Orchestrator
