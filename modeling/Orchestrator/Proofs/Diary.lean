import Orchestrator.Proofs.Simulation

namespace Orchestrator

/-!
# Diaries — all that a run asks of its world

A world can keep a diary: every offer to an outlet, every flush and every command, with its answer,
in the order in which they happen. Keeping it changes nothing else.

* `Event` — one question to the world and its answer. Some answers are faults.
* `Logs` — the events of one text that is logged: rounds of offers and a flush on the console, and
  then the same on the transcript, up to the first fault.
* `Host.watched`, `Host.history` — a host that keeps a diary, and the diary of a run.
* `Host.watched_runMatrix` — a run with a diary is the run without it.
* `Host.Keeps.history` — what every single answer keeps is kept by a run.
* `Host.notes_log` — what logging a text adds to the diary.
-/

variable {σ ε α β π ω : Type}

/-! ### Events -/

/-- The two sides of a log. -/
inductive Side where
  | console
  | transcript
  deriving DecidableEq, Repr

/-- The fault that a failure on this side is. -/
def Side.fault : Side → Cause → Fault
  | console => .console
  | transcript => .transcript

/-- A question to the world, and its answer. -/
inductive Event where
  /-- Bytes were offered to a side. -/
  | offered (side : Side) (bytes : Bytes) (offer : Offer)
  /-- A side was asked to pass on what it holds. -/
  | flushed (side : Side) (outcome : Except Cause Unit)
  /-- A command was given to the runner. -/
  | ran (call : Call) (answer : Except Fault CommandResult)

namespace Event

/-- The fault that an answer is. To take nothing of what is offered is one as well. -/
def fault? : Event → Option Fault
  | offered side _ (.took 0) => some (side.fault .nothingTaken)
  | offered side _ (.failed cause) => some (side.fault cause)
  | flushed side (.error cause) => some (side.fault cause)
  | ran _ (.error fault) => some fault
  | _ => none

/-- The side that was asked, if it was not the runner. -/
def side? : Event → Option Side
  | offered side _ _ => some side
  | flushed side _ => some side
  | ran _ _ => none

/-- The bytes that a side has taken. -/
def accepted (side : Side) : Event → Bytes
  | offered asked bytes (.took n) => if asked = side then bytes.take n else []
  | _ => []

end Event

/-- The bytes that a side has taken in the course of the events. -/
def accepted (side : Side) (events : List Event) : Bytes := events.flatMap (Event.accepted side)

@[simp] theorem accepted_nil (side : Side) : accepted side [] = [] := rfl

/-- What a side has taken of events one after another is what it has taken of each part. -/
@[simp] theorem accepted_append (side : Side) (events events' : List Event) :
    accepted side (events ++ events') = accepted side events ++ accepted side events' :=
  List.flatMap_append

@[simp] theorem accepted_cons (side : Side) (event : Event) (events : List Event) :
    accepted side (event :: events) = event.accepted side ++ accepted side events := rfl

/-- A side takes nothing of what it is not asked to take. -/
theorem Event.accepted_of_ne {event : Event} {side : Side} (other : event.side? ≠ some side) :
    event.accepted side = [] := by
  match event, other with
  | .offered asked bytes (.took n), other => exact if_neg fun same => other (congrArg some same)
  | .offered _ _ .interrupted, _ => rfl
  | .offered _ _ (.failed _), _ => rfl
  | .flushed _ _, _ => rfl
  | .ran _ _, _ => rfl

/-- A side takes nothing of what is asked of the other. -/
theorem accepted_of_ne {events : List Event} {side other : Side}
    (h : ∀ event ∈ events, event.side? = some other) (different : other ≠ side) :
    accepted side events = [] := by
  refine List.flatMap_eq_nil_iff.2 fun event mem => Event.accepted_of_ne ?_
  rw [h event mem]
  exact fun same => different (Option.some.inj same)

/-- No answer is a fault. -/
def Quiet (events : List Event) : Prop := ∀ event ∈ events, event.fault? = none

/-- The events end with their only fault, or have none if the outcome is no error. -/
def Ends (events : List Event) : Except Fault Unit → Prop
  | .ok () => Quiet events
  | .error fault => ∃ earlier event,
      events = earlier ++ [event] ∧ Quiet earlier ∧ event.fault? = some fault

/-- Quiet events put off the end of those behind them. -/
theorem Ends.append {first events : List Event} {out : Except Fault Unit} (quiet : Quiet first)
    (h : Ends events out) : Ends (first ++ events) out := by
  match out, h with
  | .ok (), h => exact List.forall_mem_append.2 ⟨quiet, h⟩
  | .error _, ⟨earlier, event, split, quiet', fault⟩ =>
    refine ⟨first ++ earlier, event, ?_, List.forall_mem_append.2 ⟨quiet, quiet'⟩, fault⟩
    rw [split, List.append_assoc]

/-- So does one event without a fault. -/
theorem Ends.cons {event : Event} {events : List Event} {out : Except Fault Unit}
    (quiet : event.fault? = none) (h : Ends events out) : Ends (event :: events) out :=
  Ends.append (List.forall_mem_singleton.2 quiet) h

/-! ### The events of a text -/

/-- Bytes were written to a side: offered until all were taken or something failed. -/
inductive Written (side : Side) : Bytes → List Event → Except Fault Unit → Prop where
  | all : Written side [] [] (.ok ())
  | took {bytes n events out} (nonempty : bytes ≠ [])
      (more : Written side (bytes.drop (n + 1)) events out) :
      Written side bytes (.offered side bytes (.took (n + 1)) :: events) out
  | interrupted {bytes events out} (nonempty : bytes ≠ []) (more : Written side bytes events out) :
      Written side bytes (.offered side bytes .interrupted :: events) out
  | nothing {bytes} (nonempty : bytes ≠ []) :
      Written side bytes [.offered side bytes (.took 0)] (.error (side.fault .nothingTaken))
  | failed {bytes cause} (nonempty : bytes ≠ []) :
      Written side bytes [.offered side bytes (.failed cause)] (.error (side.fault cause))

/-- A text was written to a side and, if that did not fail, passed on. -/
inductive Emits (side : Side) (text : String) : List Event → Except Fault Unit → Prop where
  | unwritten {events fault} (written : Written side (Text.encode text) events (.error fault)) :
      Emits side text events (.error fault)
  | passed {events} (written : Written side (Text.encode text) events (.ok ())) :
      Emits side text (events ++ [.flushed side (.ok ())]) (.ok ())
  | held {events cause} (written : Written side (Text.encode text) events (.ok ())) :
      Emits side text (events ++ [.flushed side (.error cause)]) (.error (side.fault cause))

/-- A text was logged: on the console and, if that did not fail, in the transcript. -/
inductive Logs (text : String) : List Event → Except Fault Unit → Prop where
  | unshown {events fault} (console : Emits .console text events (.error fault)) :
      Logs text events (.error fault)
  | shown {events events' out} (console : Emits .console text events (.ok ()))
      (transcript : Emits .transcript text events' out) : Logs text (events ++ events') out

variable {side : Side} {bytes : Bytes} {text : String} {events : List Event}
  {out : Except Fault Unit}

namespace Written

/-- Writing ends with the fault of its last event, or without one. -/
theorem ends (h : Written side bytes events out) : Ends events out := by
  induction h with
  | all => exact List.forall_mem_nil _
  | took nonempty more ih => exact ih.cons rfl
  | interrupted nonempty more ih => exact ih.cons rfl
  | nothing nonempty => exact ⟨[], _, rfl, List.forall_mem_nil _, rfl⟩
  | failed nonempty => exact ⟨[], _, rfl, List.forall_mem_nil _, rfl⟩

/-- All that is asked in writing to a side is asked of that side. -/
theorem side?_eq (h : Written side bytes events out) :
    ∀ event ∈ events, event.side? = some side := by
  induction h with
  | all => exact List.forall_mem_nil _
  | took nonempty more ih => exact List.forall_mem_cons.2 ⟨rfl, ih⟩
  | interrupted nonempty more ih => exact List.forall_mem_cons.2 ⟨rfl, ih⟩
  | nothing nonempty => exact List.forall_mem_singleton.2 rfl
  | failed nonempty => exact List.forall_mem_singleton.2 rfl

/-- The side has taken all bytes, unless something failed. -/
theorem accepted_eq (h : Written side bytes events (.ok ())) : accepted side events = bytes := by
  generalize ok : (.ok () : Except Fault Unit) = out at h
  induction h with
  | all => rfl
  | @took bytes n events out nonempty more ih =>
    rw [accepted_cons, ih ok, Event.accepted, if_pos rfl, List.take_append_drop]
  | interrupted nonempty more ih => exact ih ok
  | nothing nonempty => cases ok
  | failed nonempty => cases ok

end Written

namespace Emits

/-- A text is written and passed on until something fails, and then no further. -/
theorem ends (h : Emits side text events out) : Ends events out := by
  cases h with
  | unwritten written => exact written.ends
  | passed written => exact .append written.ends (List.forall_mem_singleton.2 rfl)
  | held written => exact .append written.ends ⟨[], _, rfl, List.forall_mem_nil _, rfl⟩

/-- All that is asked in emitting on a side is asked of that side. -/
theorem side?_eq (h : Emits side text events out) :
    ∀ event ∈ events, event.side? = some side := by
  cases h with
  | unwritten written => exact written.side?_eq
  | passed written =>
    exact List.forall_mem_append.2 ⟨written.side?_eq, List.forall_mem_singleton.2 rfl⟩
  | held written =>
    exact List.forall_mem_append.2 ⟨written.side?_eq, List.forall_mem_singleton.2 rfl⟩

/-- A text that was emitted was taken as a whole. -/
theorem accepted_eq (h : Emits side text events (.ok ())) :
    accepted side events = Text.encode text := by
  cases h with
  | passed written =>
    rw [accepted_append, written.accepted_eq]
    exact List.append_nil _

end Emits

namespace Logs

/-- Logging ends with the fault of its last event, or without one. -/
theorem ends (h : Logs text events out) : Ends events out := by
  cases h with
  | unshown console => exact console.ends
  | shown console transcript => exact .append console.ends transcript.ends

/-- Logging runs no commands. -/
theorem isSome_side? (h : Logs text events out) : ∀ event ∈ events, event.side?.isSome := by
  intro event mem
  cases h with
  | unshown console => simp [console.side?_eq event mem]
  | shown console transcript =>
    rcases List.mem_append.1 mem with mem | mem
    · simp [console.side?_eq event mem]
    · simp [transcript.side?_eq event mem]

/-- Both sides have taken a text that was logged without a fault. -/
theorem accepted_eq (h : Logs text events (.ok ())) (side : Side) :
    accepted side events = Text.encode text := by
  cases h with
  | shown console transcript =>
    rw [accepted_append]
    cases side with
    | console =>
      rw [console.accepted_eq, accepted_of_ne transcript.side?_eq (by decide), List.append_nil]
    | transcript =>
      rw [transcript.accepted_eq, accepted_of_ne console.side?_eq (by decide), List.nil_append]

end Logs

/-! ### Worlds that keep a diary -/

/-- Gear, and a diary of all that was asked of it. -/
structure Watched (ω : Type) where
  gear : ω
  diary : List Event

/-- The world without its diary. -/
def watchedPart : Part (World π (Watched ω)) (World π ω) (List Event) where
  split w := match w with | ⟨files, ⟨gear, diary⟩⟩ => (⟨files, gear⟩, diary)
  join w diary := ⟨w.files, ⟨w.gear, diary⟩⟩
  split_join _ _ := rfl
  join_split _ := rfl

/-- Do an action and note its outcome. -/
def Action.noting (note : Except ε α → Event) (action : Action (World π ω) ε α) :
    Action (World π (Watched ω)) ε α := fun w =>
  match action (watchedPart.get w) with
  | (out, after) => (out, watchedPart.join after (watchedPart.rest w ++ [note out]))

/-- An outlet whose answers are noted. -/
def Outlet.watched (side : Side) (o : Outlet (World π ω)) : Outlet (World π (Watched ω)) where
  write w bytes :=
    match o.write (watchedPart.get w) bytes with
    | (offer, after) =>
      (offer, watchedPart.join after (watchedPart.rest w ++ [.offered side bytes offer]))
  flush := o.flush.noting (.flushed side)
  patience w := o.patience (watchedPart.get w)
  patience_lt w bytes h := o.patience_lt (watchedPart.get w) bytes h

namespace Host

/-- The same host in a world that keeps a diary. -/
def watched (host : Host π ω) : Host π (Watched ω) where
  start := host.start
  sink := ⟨host.sink.console.watched .console, host.sink.transcript.watched .transcript⟩
  runner := ⟨fun command ctx =>
    (host.runner.execute command ctx).noting (.ran ⟨command, ctx⟩)⟩

end Host

/-- The session with a diary in which nothing is written yet. -/
def Session.watched (s : Session (World π ω)) : Session (World π (Watched ω)) :=
  ⟨watchedPart.join s.world [], s.headed⟩

/-- The diary of a run. -/
def Host.history (host : Host π ω) (config : Config) (s : Session (World π ω)) : List Event :=
  (host.watched.runMatrix config s.watched).2.world.gear.diary

/-- An outlet that keeps a diary does what it did without. -/
theorem Outlet.watched_matches (side : Side) (o : Outlet (World π ω)) :
    (o.watched side).Matches (fun w' w => watchedPart.get w' = w) o where
  write bytes _ w' w related := by
    subst related
    exact ⟨_, _, _, rfl, rfl, rfl⟩
  flush w' w related := by
    subst related
    exact ⟨_, _, _, rfl, rfl, rfl⟩

/-- A host that keeps a diary does what it did without. -/
theorem Host.watched_matches (host : Host π ω) :
    host.watched.Matches (fun w' w => watchedPart.get w' = w) host where
  start := rfl
  files w' w related := by
    subst related
    rfl
  sink := ⟨Outlet.watched_matches _ _, Outlet.watched_matches _ _⟩
  runner command ctx w' w related := by
    subst related
    exact ⟨_, _, _, rfl, rfl, rfl⟩

/-- **Keeping a diary changes nothing.** A run with a diary is the run without it. -/
theorem Host.watched_runMatrix (host : Host π ω) (config : Config) (s : Session (World π ω)) :
    ∃ w, host.watched.runMatrix config s.watched = ((host.runMatrix config s).1, w) ∧
      watchedPart.get w.world = (host.runMatrix config s).2.world ∧
      w.headed = (host.runMatrix config s).2.headed := by
  obtain ⟨out, w, after, ends, ends', same, headed⟩ :=
    host.watched_matches.runMatrix config s.watched s ⟨rfl, rfl⟩
  rw [ends, ends']
  exact ⟨w, rfl, same, headed⟩

/-- `host.Keeps I`: whatever the host is asked, `I` stays true of its world and the diary. -/
structure Host.Keeps (host : Host π ω) (I : World π ω → List Event → Prop) : Prop where
  write_console : ∀ w diary bytes, bytes ≠ [] → I w diary →
    I (host.sink.console.write w bytes).2
      (diary ++ [.offered .console bytes (host.sink.console.write w bytes).1])
  flush_console : ∀ w diary, I w diary →
    I (host.sink.console.flush w).2 (diary ++ [.flushed .console (host.sink.console.flush w).1])
  write_transcript : ∀ w diary bytes, bytes ≠ [] → I w diary →
    I (host.sink.transcript.write w bytes).2
      (diary ++ [.offered .transcript bytes (host.sink.transcript.write w bytes).1])
  flush_transcript : ∀ w diary, I w diary →
    I (host.sink.transcript.flush w).2
      (diary ++ [.flushed .transcript (host.sink.transcript.flush w).1])
  execute : ∀ w diary command ctx, I w diary →
    I (host.runner.execute command ctx w).2
      (diary ++ [.ran ⟨command, ctx⟩ (host.runner.execute command ctx w).1])

/-- **Invariants of a diary.** What every answer of the host keeps is kept by a run. -/
theorem Host.Keeps.history {host : Host π ω} {I : World π ω → List Event → Prop}
    (h : host.Keeps I) (config : Config) {s : Session (World π ω)} (start : I s.world []) :
    I (host.runMatrix config s).2.world (host.history config s) := by
  -- the watched host is matched by the other in worlds that keep the invariant
  have answers : host.watched.Matches
      (fun w' w => watchedPart.get w' = w ∧ I w (watchedPart.rest w')) host :=
    { start := rfl
      files := by
        rintro w' w ⟨rfl, -⟩
        rfl
      sink.console.write := by
        rintro bytes nonempty w' w ⟨rfl, kept⟩
        exact ⟨_, _, _, rfl, rfl, rfl, h.write_console _ _ bytes nonempty kept⟩
      sink.console.flush := by
        rintro w' w ⟨rfl, kept⟩
        exact ⟨_, _, _, rfl, rfl, rfl, h.flush_console _ _ kept⟩
      sink.transcript.write := by
        rintro bytes nonempty w' w ⟨rfl, kept⟩
        exact ⟨_, _, _, rfl, rfl, rfl, h.write_transcript _ _ bytes nonempty kept⟩
      sink.transcript.flush := by
        rintro w' w ⟨rfl, kept⟩
        exact ⟨_, _, _, rfl, rfl, rfl, h.flush_transcript _ _ kept⟩
      runner := by
        rintro command ctx w' w ⟨rfl, kept⟩
        exact ⟨_, _, _, rfl, rfl, rfl, h.execute _ _ command ctx kept⟩ }
  obtain ⟨out, w', w, ends, ends', ⟨-, kept⟩, -⟩ :=
    answers.runMatrix config s.watched s ⟨⟨rfl, start⟩, rfl⟩
  rw [Host.history, ends, ends']
  exact kept

/-! ### What is added to the diary -/

/-- The diary of a session. -/
def Session.diary (s : Session (World π (Watched ω))) : List Event := s.world.gear.diary

/-- Whatever is in the diary, the action adds events to it that fit its outcome. -/
def Notes (action : Logged (World π (Watched ω)) α) (P : List Event → Except Fault α → Prop) :
    Prop :=
  ∀ s, ∃ events, (action s).2.diary = s.diary ++ events ∧ P events (action s).1

namespace Notes

variable {first : Logged (World π (Watched ω)) α} {next : α → Logged (World π (Watched ω)) β}
  {P P' : List Event → Except Fault α → Prop} {Q : List Event → Except Fault β → Prop}

/-- To do nothing adds nothing to the diary. -/
theorem pure {a : α} (h : P [] (.ok a)) :
    Notes (pure a : Logged (World π (Watched ω)) α) P :=
  fun s => ⟨[], (List.append_nil s.diary).symm, h⟩

/-- What is noted may be told with less detail. -/
theorem mono (h : Notes first P) (weaker : ∀ events out, P events out → P' events out) :
    Notes first P' := by
  intro s
  obtain ⟨events, added, fits⟩ := h s
  exact ⟨events, added, weaker _ _ fits⟩

/-- What two actions add, one after the other. -/
theorem bind {R : α → List Event → Except Fault β → Prop} (h : Notes first P)
    (h' : ∀ a, Notes (next a) (R a))
    (stop : ∀ events fault, P events (.error fault) → Q events (.error fault))
    (go : ∀ a events events' out, P events (.ok a) → R a events' out → Q (events ++ events') out) :
    Notes (first >>= next) Q := by
  intro s
  obtain ⟨events, added, fits⟩ := h s
  rw [Action.bind_apply]
  rcases done : first s with ⟨fault | a, after⟩
  · rw [done] at added fits
    exact ⟨events, added, stop events fault fits⟩
  · rw [done] at added fits
    obtain ⟨events', added', fits'⟩ := h' a after
    refine ⟨events ++ events', ?_, go a events events' _ fits fits'⟩
    show (next a after).2.diary = _
    rw [added', added, List.append_assoc]

end Notes

/-- An offer adds one event to the diary: that it was made, and what became of it. -/
theorem Outlet.rest_of_write {side : Side} {o : Outlet (World π ω)} {bytes : Bytes}
    {w after : World π (Watched ω)} {offer : Offer}
    (h : (o.watched side).write w bytes = (offer, after)) :
    watchedPart.rest after = watchedPart.rest w ++ [.offered side bytes offer] := by
  obtain ⟨rfl, rfl⟩ := Prod.mk.inj h
  rfl

/-- What writing bytes adds to the diary. -/
theorem Outlet.written_writeAll (side : Side) (o : Outlet (World π ω)) (bytes : Bytes)
    (w : World π (Watched ω)) :
    ∃ events, watchedPart.rest ((o.watched side).writeAll bytes w).2
        = watchedPart.rest w ++ events ∧
      Written side bytes events (((o.watched side).writeAll bytes w).1.mapError side.fault) := by
  -- one case for each answer to an offer, and `Written` has a constructor for each
  fun_induction (o.watched side).writeAll bytes w with
  | case1 w => exact ⟨[], (List.append_nil _).symm, .all⟩
  | case2 bytes w nonempty after offered => exact ⟨_, rest_of_write offered, .nothing nonempty⟩
  | case3 bytes w nonempty n after offered ih =>
    obtain ⟨events, added, written⟩ := ih
    refine ⟨_ :: events, ?_, .took nonempty written⟩
    rw [added, rest_of_write offered, List.append_assoc, List.singleton_append]
  | case4 bytes w nonempty after offered less ih =>
    obtain ⟨events, added, written⟩ := ih
    refine ⟨_ :: events, ?_, .interrupted nonempty written⟩
    rw [added, rest_of_write offered, List.append_assoc, List.singleton_append]
  | case5 bytes w nonempty cause after offered =>
    exact ⟨_, rest_of_write offered, .failed nonempty⟩

/-- What a text adds to the diary of one side. -/
theorem Outlet.emits_emit (side : Side) (o : Outlet (World π ω)) (text : String)
    (w : World π (Watched ω)) :
    ∃ events, watchedPart.rest ((o.watched side).emit text w).2 = watchedPart.rest w ++ events ∧
      Emits side text events (((o.watched side).emit text w).1.mapError side.fault) := by
  obtain ⟨events, added, written⟩ := written_writeAll side o (Text.encode text) w
  rw [emit_apply]
  rcases done : (o.watched side).writeAll (Text.encode text) w with ⟨cause | ⟨⟩, after⟩
  · rw [done] at added written
    exact ⟨events, added, .unwritten written⟩
  · rw [done] at added written
    -- the bytes are written, and the flush is noted as the last event
    have noted : watchedPart.rest ((o.watched side).flush after).2
        = watchedPart.rest w ++ (events ++ [.flushed side ((o.watched side).flush after).1]) := by
      rw [← List.append_assoc, ← added]
      rfl
    show ∃ events, watchedPart.rest ((o.watched side).flush after).2 = _ ∧
      Emits side text events (((o.watched side).flush after).1.mapError side.fault)
    rcases flushed : ((o.watched side).flush after).1 with cause | ⟨⟩
    · rw [flushed] at noted
      exact ⟨_, noted, .held written⟩
    · rw [flushed] at noted
      exact ⟨_, noted, .passed written⟩

/-- **A text in the diary.** Logging a text adds the events of just that. -/
theorem Host.notes_log (host : Host π ω) (text : String) :
    Notes (host.watched.sink.log text) (Logs text) := by
  rintro ⟨w, headed⟩
  obtain ⟨events, added, shown⟩ := Outlet.emits_emit .console host.sink.console text w
  -- the transcript is asked only if the console did not fail
  rw [Sink.log_apply]
  simp only [watched]
  rcases first : (host.sink.console.watched .console).emit text w with ⟨cause | ⟨⟩, after⟩
  · rw [first] at added shown
    exact ⟨events, added, .unshown shown⟩
  · rw [first] at added shown
    obtain ⟨events', added', written⟩ :=
      Outlet.emits_emit .transcript host.sink.transcript text after
    rw [added, List.append_assoc] at added'
    dsimp only
    rcases second : (host.sink.transcript.watched .transcript).emit text after with
      ⟨cause | ⟨⟩, last⟩
    · rw [second] at added' written
      exact ⟨_, added', .shown shown written⟩
    · rw [second] at added' written
      exact ⟨_, added', .shown shown written⟩

/-- What a command adds to the diary. -/
theorem Host.notes_execute (host : Host π ω) (call : Call) :
    Notes ((host.watched.runner.execute call.command call.context).within (Session.part _))
      (fun events out => events = [.ran call out]) :=
  fun _ => ⟨_, rfl, rfl⟩

end Orchestrator
