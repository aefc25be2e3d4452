import Orchestrator.Cli
import Orchestrator.Proofs.Child.Occasions
import Orchestrator.Proofs.FileSystem.Walks

namespace Orchestrator

/-!
# Desks — what is written at a desk

At a desk the bytes of the transcript land in the file system, where every child could reach them as
well, and the terminal is shared with the children.

* `Desk.Holds` — the open transcript, if it is a file, holds just what was logged.
* `Desk.Holds.writeAll` — bytes that a medium takes few at a time come to be held all the same.
* `Desk.Holds.noted` — a text that is logged is added to it, and to the terminal.
* `Desk.Holds.ran` — a command that spares the transcript adds its lines to the terminal alone.
* `Caller.deeds_of_leads` — what all commands of a run come to.
* `Caller.written_of_leads` — what all its moves have written.
-/

variable {π δ : Type}

/-! ### What takes the bytes -/

/-- A device that can be written to takes everything. -/
theorem Device.reliable_outlet {d : Device} (willing : d.full? = none) :
    (d.outlet : Outlet δ).Reliable where
  write disk bytes nonempty := by
    obtain ⟨first, rest, rfl⟩ := List.exists_cons_of_ne_nil nonempty
    exact .inr ⟨rest.length, by simp [Device.outlet, willing]⟩
  flush _ := rfl

/-- What is written to an open file is taken if the disk takes everything, and so is what is written
to a device that is not full. -/
theorem FileSystem.Handle.reliable_medium {handle : FileSystem.Handle} {disk : Outlet δ}
    (takes : disk.Reliable) (willing : ∀ d, handle.device? = some d → d.full? = none) :
    (handle.medium disk).Reliable := by
  unfold FileSystem.Handle.medium
  rcases device : handle.device? with _ | d
  · exact takes
  · exact Device.reliable_outlet (willing d device)

namespace Desk

/-! ### The terminal -/

/-- The world with more bytes on the terminal. -/
def showing (bytes : Bytes) (w : World π (Desk δ)) : World π (Desk δ) :=
  ⟨w.files, ⟨⟨(), w.gear.terminal.taken ++ bytes⟩, w.gear.transcript, w.gear.disk⟩⟩

@[simp] theorem taken_showing (bytes : Bytes) (w : World π (Desk δ)) :
    (showing bytes w).gear.terminal.taken.toList = w.gear.terminal.taken.toList ++ bytes := by
  simp [showing]

/-- Showing nothing changes nothing. -/
theorem showing_nil (w : World π (Desk δ)) : showing [] w = w := by
  simp [showing]

/-- Showing bytes and then more of them is showing them all. -/
theorem showing_showing (first second : Bytes) (w : World π (Desk δ)) :
    showing second (showing first w) = showing (first ++ second) w := by
  have same : w.gear.terminal.taken ++ first ++ second
      = w.gear.terminal.taken ++ (first ++ second) := Array.toList_inj.1 (by simp)
  simp [showing, same]

/-- The terminal takes everything at once. -/
theorem console_writeAll (bytes : Bytes) (w : World π (Desk δ)) :
    console.writeAll bytes w = (.ok (), showing bytes w) := by
  by_cases empty : bytes = []
  · subst empty
    rw [Outlet.writeAll_nil, showing_nil]
  -- the terminal takes all that it is offered in one round
  have offered : console.write w bytes = (.took bytes.length, showing bytes w) := by
    simp [console, Outlet.within, Outlet.kept, Outlet.boundless, terminalPart, World.gearPart,
      showing]
  rw [Outlet.writeAll_of_ne_nil _ empty, offered]
  obtain ⟨first, rest, rfl⟩ := List.exists_cons_of_ne_nil empty
  simp

/-- A text is shown and passed on, whatever stands on the terminal. -/
theorem console_emit (text : String) (w : World π (Desk δ)) :
    console.emit text w = (.ok (), showing (Text.encode text) w) := by
  rw [Outlet.emit_apply, console_writeAll]
  rfl

/-- The terminal never fails. -/
theorem reliable_console : (console : Outlet (World π (Desk δ))).Reliable :=
  (Outlet.reliable_boundless.kept.within _).within _

/-- A line is echoed as it is shown. -/
theorem echo_console (line : Bytes) (w : World π (Desk δ)) :
    Child.echo console line w = (.ok (), showing (Text.encode (Child.shown line)) w) := by
  unfold Child.echo
  rw [Action.mapError, Action.bind_of_ok (console_writeAll _ w),
    Action.bind_of_ok (console_writeAll _ _), showing_showing]
  have ending : Text.encode (Child.shown line)
      = Text.encode (Text.decode line) ++ [Text.newline] := Text.encode_append _ _
  rw [ending]
  rfl

/-- Lines are echoed one after the other. -/
theorem echoAll_console (lines : List Bytes) (w : World π (Desk δ)) :
    Child.echoAll console lines w =
      showing (Text.encode (String.join (lines.map Child.shown))) w := by
  induction lines generalizing w with
  | nil => exact (showing_nil w).symm
  | cons line rest ih =>
    have first : Child.echoAll console (line :: rest) w
        = Child.echoAll console rest (Child.echo console line w).2 := rfl
    rw [first, echo_console, ih, showing_showing, List.map_cons, String.join_cons,
      Text.encode_append]

/-- What a command leaves is what its child leaves, with its lines shown. -/
theorem left_execute {launcher : Child.Launcher π (Desk δ)} (shows : launcher.console = console)
    (call : Call) (w : World π (Desk δ)) :
    (launcher.runner.execute call.command call.context w).2
      = showing (Text.encode (String.join ((launcher.echoed ⟨call, w⟩).map Child.shown)))
        (launcher.left ⟨call, w⟩) := by
  rw [Child.Launcher.run_eq (shows ▸ reliable_console), shows, echoAll_console]

/-! ### The transcript -/

/-- Writing at the end of contents adds to them. -/
theorem overwrite_length (contents bytes : Bytes) :
    FileSystem.overwrite contents contents.length bytes = contents ++ bytes := by
  simp [FileSystem.overwrite]

/-- The world in which bytes went through the open transcript, and left the disk in this state. -/
def landed (bytes : Bytes) (disk : δ) (w : World π (Desk δ)) : World π (Desk δ) :=
  match w.gear.transcript.write bytes w.files with
  | (handle, files) => ⟨files, ⟨w.gear.terminal, handle, disk⟩⟩

/-- The open transcript is the one that was opened, and all that was logged went through it. If it
is a file, that stands where it was and holds just what was logged. -/
structure Holds (opened : FileSystem.Handle) (log : Bytes) (w : World π (Desk δ)) : Prop where
  handle : w.gear.transcript = { opened with offset := log.length }
  file : opened.device? = none →
    ∃ f, w.files.node? opened.at_ = some (.file f) ∧ f.serial = opened.serial ∧ f.contents = log

variable {medium : Outlet δ}

/-- What a transcript takes is what its medium takes. -/
theorem write_transcriptOutlet (w : World π (Desk δ)) (bytes : Bytes) :
    (transcriptOutlet medium).write w bytes = match medium.write w.gear.disk bytes with
      | (.took n, disk) => (.took n, landed (bytes.take n) disk w)
      | (offer, disk) => (offer, { w with gear := { w.gear with disk := disk } }) := by
  obtain ⟨files, terminal, handle, before⟩ := w
  rcases offered : medium.write before bytes with ⟨_ | _ | _, disk⟩ <;>
    simp only [transcriptOutlet, landed, offered]

/-- A transcript on a medium that does not fail does not fail. -/
theorem reliable_transcriptOutlet (reliable : medium.Reliable) :
    (transcriptOutlet medium : Outlet (World π (Desk δ))).Reliable where
  write w bytes nonempty := by
    have answer := reliable.write w.gear.disk bytes nonempty
    rw [write_transcriptOutlet]
    rcases offered : medium.write w.gear.disk bytes with ⟨_ | _ | _, disk⟩ <;>
      rwa [offered] at answer
  flush _ := rfl

/-- A sink with its transcript on a medium that does not fail has two devices that do not fail. -/
theorem reliable_sink (reliable : medium.Reliable) :
    (sink medium : Sink (World π (Desk δ))).Reliable :=
  Sink.reliable_of_outlets reliable_console (reliable_transcriptOutlet reliable)

namespace Holds

variable {opened : FileSystem.Handle} {log : Bytes} {w : World π (Desk δ)}

/-- What the terminal shows does not touch the log. -/
theorem showing (h : Holds opened log w) (bytes : Bytes) :
    Holds opened log (Desk.showing bytes w) := ⟨h.handle, h.file⟩

/-- Whatever state the disk is in, the transcript holds the same. -/
theorem disk (h : Holds opened log w) (disk : δ) :
    Holds opened log { w with gear := { w.gear with disk := disk } } := ⟨h.handle, h.file⟩

/-- Bytes that went through the transcript are held as well. -/
theorem landed (h : Holds opened log w) (bytes : Bytes) (disk : δ) :
    Holds opened (log ++ bytes) (landed bytes disk w) := by
  refine ⟨?_, fun isFile => ?_⟩
  · simp only [Desk.landed, FileSystem.Handle.write, h.handle, List.length_append]
  · obtain ⟨f, found, serial, rfl⟩ := h.file isFile
    have below : opened.at_ ≠ [] := by
      intro root
      simp [root] at found
    -- the next byte goes to the end of the file, which therefore grows
    have whole : w.gear.transcript.file? w.files = some f := by
      simp [h.handle, FileSystem.Handle.file?, isFile, found, serial]
    let g : File π := { f with contents := f.contents ++ bytes, program := none }
    have files : (Desk.landed bytes disk w).files = w.files.put opened.at_ (.file g) := by
      simp only [Desk.landed, FileSystem.Handle.write, whole]
      simp only [h.handle, overwrite_length, g]
    rw [files]
    exact ⟨g, FileSystem.node?_put_self _ _ below, serial, rfl⟩

/-- Bytes that are written to the transcript, however few at a time, are added to what it holds, and
change nothing on the terminal. -/
theorem writeAll (h : Holds opened log w) (reliable : medium.Reliable) (bytes : Bytes) :
    ∃ w', (transcriptOutlet medium).writeAll bytes w = (.ok (), w') ∧
      Holds opened (log ++ bytes) w' ∧ w'.gear.terminal = w.gear.terminal := by
  -- what was taken so far is held, and with the rest it is all that there is to write
  have rule := (transcriptOutlet medium).writeAll_rule
    (I := fun now rest => ∃ part, part ++ rest = bytes ∧ Holds opened (log ++ part) now ∧
      now.gear.terminal = w.gear.terminal)
    (F := fun _ _ => False) ?_ w bytes ⟨[], rfl, by rwa [List.append_nil], rfl⟩
  · rcases written : (transcriptOutlet medium).writeAll bytes w with ⟨cause | ⟨⟩, w'⟩
    · rw [written] at rule
      exact rule.elim
    · rw [written] at rule
      obtain ⟨part, all, held, terminal⟩ := rule
      obtain rfl : part = bytes := by rwa [List.append_nil] at all
      exact ⟨w', rfl, held, terminal⟩
  · rintro now rest nonempty ⟨part, all, held, terminal⟩
    have answer := reliable.write now.gear.disk rest nonempty
    rw [write_transcriptOutlet]
    rcases offered : medium.write now.gear.disk rest with ⟨(_ | n) | _ | cause, disk⟩
    · simp [offered] at answer
    · refine ⟨part ++ rest.take (n + 1), ?_, ?_, terminal⟩
      · rw [List.append_assoc, List.take_append_drop, all]
      · rw [← List.append_assoc]
        exact held.landed _ disk
    · exact ⟨part, all, held.disk disk, terminal⟩
    · simp [offered] at answer

/-- A text that is logged is added to the transcript and to the terminal. -/
theorem noted (h : Holds opened log w) (reliable : medium.Reliable) (text : String) :
    Holds opened (log ++ Text.encode text) ((sink medium).noted text w) ∧
      ((sink medium).noted text w).gear.terminal.taken.toList
        = w.gear.terminal.taken.toList ++ Text.encode text := by
  -- a text is shown first; then the log grows by it
  obtain ⟨w', written, holds, terminal⟩ :=
    (h.showing (Text.encode text)).writeAll reliable (Text.encode text)
  have emitted : (transcriptOutlet medium).emit text (Desk.showing (Text.encode text) w)
      = (.ok (), w') := by
    rw [Outlet.emit_apply, written]
    rfl
  have same : (sink medium).noted text w = w' := by
    unfold Sink.noted
    rw [Sink.log_apply, sink, console_emit]
    simp only [emitted]
  rw [same, terminal, taken_showing]
  exact ⟨holds, rfl⟩

/-- A command that spares the transcript adds its lines to the terminal, and nothing to the
transcript. -/
theorem ran (h : Holds opened log w) {launcher : Child.Launcher π (Desk δ)}
    (shows : launcher.console = console) {call : Call}
    (spares : launcher.Spares ⟨call, w⟩ opened.at_) :
    let after := (launcher.runner.execute call.command call.context w).2
    Holds opened log after ∧
      after.gear.terminal.taken.toList = w.gear.terminal.taken.toList ++
        Text.encode (String.join ((launcher.echoed ⟨call, w⟩).map Child.shown)) := by
  intro after
  have same : after = Desk.showing _ _ := left_execute shows call w
  -- a child may change other files, but not the log
  have left : Holds opened log (launcher.left ⟨call, w⟩) := by
    refine ⟨?_, fun isFile => ?_⟩
    · rw [Child.Launcher.gear_left]
      exact h.handle
    · obtain ⟨f, found, serial⟩ := h.file isFile
      refine ⟨f, ?_, serial⟩
      rw [Child.Launcher.node?_left spares]
      exact found
  rw [same]
  refine ⟨left.showing _, ?_⟩
  rw [taken_showing, Child.Launcher.gear_left]

end Holds

/-! ### Devices -/

/-- What is logged to a device changes no file. -/
theorem files_noted {w : World π (Desk δ)} {d : Device}
    (device : w.gear.transcript.device? = some d) (text : String) :
    ((sink medium).noted text w).files = w.files ∧
      ((sink medium).noted text w).gear.transcript.device? = some d := by
  let Stays (now : World π (Desk δ)) : Prop :=
    now.files = w.files ∧ now.gear.transcript.device? = some d
  -- bytes that go through a device go nowhere
  have landed (bytes : Bytes) (disk : δ) (now : World π (Desk δ)) (stays : Stays now) :
      Stays (landed bytes disk now) := by
    have none : now.gear.transcript.file? now.files = none := by
      simp [FileSystem.Handle.file?, stays.2]
    simp only [Stays, Desk.landed, FileSystem.Handle.write, none]
    exact stays
  have rule := (transcriptOutlet medium).writeAll_rule (I := fun now _ => Stays now)
    (F := fun now _ => Stays now) ?_ (showing (Text.encode text) w) (Text.encode text) ⟨rfl, device⟩
  · unfold Sink.noted
    rw [Sink.log_apply, sink, console_emit]
    dsimp only
    rw [Outlet.emit_apply]
    rcases written : (transcriptOutlet medium).writeAll (Text.encode text)
      (showing (Text.encode text) w) with ⟨cause | ⟨⟩, after⟩
    · rw [written] at rule
      exact rule
    · rw [written] at rule
      exact rule
  · intro now bytes nonempty stays
    rw [write_transcriptOutlet]
    rcases medium.write now.gear.disk bytes with ⟨(_ | n) | _ | cause, disk⟩
    · exact landed _ _ _ stays
    · exact landed _ _ _ stays
    · exact stays
    · exact stays

end Desk

/-! ### The moves of a run -/

/-- The texts that moves log, and where they run commands, what is echoed of these. -/
def weave : List Move → List Bytes → Bytes
  | [], _ => []
  | .logged text :: rest, echoes => Text.encode text ++ weave rest echoes
  | .looked _ _ :: rest, echoes => weave rest echoes
  | .ran _ :: rest, echoes => echoes.headD [] ++ weave rest echoes.tail

namespace Caller

variable (caller : Caller π δ)

/-- What starts the commands of a build and test run. -/
def deskLauncher : Child.Launcher π (Desk δ) := caller.launcher Desk.console Desk.held

/-- What a command comes to. -/
def deed (o : Occasion π (Desk δ)) : Deed := ⟨o.call, .ok (caller.deskLauncher.result o)⟩

/-- The bytes that are echoed of a command. -/
def echo (o : Occasion π (Desk δ)) : Bytes :=
  Text.encode (String.join ((caller.deskLauncher.echoed o).map Child.shown))

variable {caller} {config : Config} {handle : FileSystem.Handle}

/-- The commands that are run are those of the occasions, and end as they have to there. -/
theorem deeds_of_leads {w w' : World π (Desk δ)} {moves : List Move}
    (h : (caller.integrationHost handle).Leads config w moves w') :
    moves.filterMap Move.deed?
      = ((caller.integrationHost handle).occasions w moves).map caller.deed := by
  induction h with
  | done => rfl
  | logged more ih => exact ih
  | looked more ih => exact ih
  | @ran w call rest w' more ih =>
    have answer : ((caller.integrationHost handle).runner.execute call.command call.context w).1
        = .ok (caller.deskLauncher.result ⟨call, w⟩) :=
      congrArg Prod.fst (@Child.Launcher.run_eq _ _ caller.deskLauncher Desk.reliable_console call w)
    rw [List.filterMap_cons, Move.deed?_ran, Host.occasions, List.map_cons, deed, answer]
    exact congrArg _ ih

/-- **What the moves of a run have written.** If the transcript takes all that it is given and no
command touches it, it has just the texts that were logged. The terminal has them as well, and the
lines of every command where it was run. -/
theorem written_of_leads {log : Bytes} {w w' : World π (Desk δ)} {moves : List Move}
    (h : (caller.integrationHost handle).Leads config w moves w')
    (reliable : (handle.medium caller.disk).Reliable) (holds : Desk.Holds handle log w)
    (spares : ∀ o ∈ (caller.integrationHost handle).occasions w moves,
      caller.deskLauncher.Spares o handle.at_) :
    Desk.Holds handle (log ++ moves.flatMap Move.bytes) w' ∧
      w'.gear.terminal.taken.toList = w.gear.terminal.taken.toList ++
        weave moves (((caller.integrationHost handle).occasions w moves).map caller.echo) := by
  -- the moves of the log add to both, and a child only to the terminal
  induction h generalizing log with
  | done => exact ⟨by simpa using holds, by simp [weave]⟩
  | @logged w text rest w' more ih =>
    obtain ⟨holds', taken⟩ := holds.noted reliable text
    obtain ⟨holds'', taken'⟩ := ih holds' spares
    refine ⟨?_, ?_⟩
    · simpa [Move.bytes] using holds''
    · rw [taken', Host.occasions, weave, ← List.append_assoc, ← taken]
      rfl
  | looked more ih => exact ih holds spares
  | @ran w call rest w' more ih =>
    obtain ⟨holds', taken⟩ := holds.ran (show caller.deskLauncher.console = Desk.console from rfl)
      (spares ⟨call, w⟩ (.head _))
    obtain ⟨holds'', taken'⟩ := ih holds' fun o mem => spares o (.tail _ mem)
    refine ⟨holds'', ?_⟩
    rw [taken', Host.occasions, weave, List.map_cons, List.headD_cons, List.tail_cons,
      ← List.append_assoc, echo, ← taken]
    rfl

/-- If the transcript is a device and no child changes a file, a run changes none. -/
theorem files_of_leads {w w' : World π (Desk δ)} {moves : List Move} {d : Device}
    (h : (caller.integrationHost handle).Leads config w moves w')
    (device : w.gear.transcript.device? = some d)
    (idle : ∀ o behaviour left, caller.deskLauncher.child? o = .ok (behaviour, left) →
      left = o.world.files) : w'.files = w.files := by
  -- what is logged goes to the device, and the children leave the files
  induction h with
  | done => rfl
  | @logged w text rest w' more ih =>
    obtain ⟨files, device'⟩ : _ ∧ _ :=
      @Desk.files_noted π δ (handle.medium caller.disk) w d device text
    exact (ih device').trans files
  | looked more ih => exact ih device
  | @ran w call rest w' more ih =>
    have after : ((caller.integrationHost handle).runner.execute call.command call.context w).2
        = Desk.showing _ (caller.deskLauncher.left ⟨call, w⟩) := Desk.left_execute rfl call w
    have files : (caller.deskLauncher.left ⟨call, w⟩).files = w.files := by
      unfold Child.Launcher.left
      rcases started : caller.deskLauncher.child? ⟨call, w⟩ with cause | ⟨behaviour, left⟩
      · rfl
      · exact idle _ _ _ started
    have gear : (caller.deskLauncher.left ⟨call, w⟩).gear = w.gear := Child.Launcher.gear_left
    rw [after] at ih
    rw [ih (by rw [Desk.showing, gear]; exact device), Desk.showing, files]

end Caller

end Orchestrator
