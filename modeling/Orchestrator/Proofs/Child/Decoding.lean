import Orchestrator.Desk
import Orchestrator.Proofs.Child.Merge
import Orchestrator.Proofs.Child.Occasions
import Orchestrator.Proofs.Text.Decoding

namespace Orchestrator.Child

/-!
# Decoding — what a child writes, line by line and as a whole

The bytes of a child are cut into lines before anything is decoded. Nobody can tell from the text
that comes out: it is that of all bytes at once.

* `echo_within` — a console that is a part of the world is all that an echo touches.
* `Launcher.atConsole` — a launcher whose console is a part of its gear.
* `Launcher.execute_decodes_whole` — what is captured, and what is echoed of a single stream.
-/

variable {σ π ω γ δ : Type}

/-! ### Echoes on a part of the world -/

/-- A console that is a part of the world is all that an echo touches. -/
theorem echo_within (p : Part σ γ δ) (o : Outlet γ) (line : Bytes) :
    echo (o.within p) line = (echo o line).within p := by
  rw [echo, echo, Action.mapError_within, Action.bind_within, Outlet.writeAll_within,
    Outlet.writeAll_within]
  refine congrArg (Action.mapError _) (bind_congr fun _ => ?_)
  rw [Action.bind_within]
  rfl

/-- Echoing to a part of the world leaves the rest of it. -/
theorem echoAll_within (p : Part σ γ δ) (o : Outlet γ) (lines : List Bytes) (s : σ) :
    echoAll (o.within p) lines s = p.join (echoAll o lines (p.get s)) (p.rest s) := by
  induction lines generalizing s with
  | nil => exact (p.join_get_rest s).symm
  | cons line rest ih =>
    have first : echoAll (o.within p) (line :: rest) s
        = echoAll (o.within p) rest (echo (o.within p) line s).2 := rfl
    rw [first, ih, echo_within, Action.within_apply, p.get_join, p.rest_join]
    rfl

namespace Launcher

/-- The launcher at a console with any device, which is a part of its gear. -/
def atConsole (launcher : Launcher π ω) (part : Part ω (Channel γ) δ) (device : Outlet γ) :
    Launcher π ω :=
  { launcher with console := (device.kept.within part).within (World.gearPart π ω) }

variable {launcher : Launcher π ω} {part : Part ω (Channel γ) δ} {device : Outlet γ}

/-- A launcher at a console that does not fail has one that does not fail. -/
theorem reliable_atConsole (takes : device.Reliable) :
    (launcher.atConsole part device).console.Reliable :=
  (takes.kept.within part).within (World.gearPart π ω)

/-- The console takes the lines that are echoed to it, one after another. -/
theorem taken_atConsole (takes : device.Reliable) (lines : List Bytes) (w : World π ω) :
    (part.get (echoAll (launcher.atConsole part device).console lines w).gear).taken.toList
      = (part.get w.gear).taken.toList ++ Text.encode (String.join (lines.map shown)) := by
  have gear : (echoAll (launcher.atConsole part device).console lines w).gear
      = part.join (echoAll device.kept lines (part.get w.gear)) (part.rest w.gear) := by
    show (echoAll ((device.kept.within part).within (World.gearPart π ω)) lines w).gear = _
    rw [echoAll_within, echoAll_within]
    rfl
  rw [gear, part.get_join, taken_echoAll takes]

/-! ### Whole streams -/

/-- The error text of a result has the lines of the error stream, one by one. -/
theorem errorText_of_ok {o : Occasion π ω} {behaviour : Behaviour} {files : FileSystem π}
    {result : CommandResult} (started : launcher.child? o = .ok (behaviour, files))
    (ended : (launcher.runner.execute o.call.command o.call.context o.world).1 = .ok result) :
    result.errorText = String.join ((Text.lines (behaviour.written .err)).map shown) := by
  rw [execute_eq, started] at ended
  dsimp only at ended
  split at ended
  · cases ended
  · next captured after drained =>
    cases ended
    dsimp only
    rw [captured_of_drain drained, String.empty_append, Pipes.left_ofStreams]

/-- **Line by line, and as a whole.** What is captured of a child is its error stream, decoded as a
whole; and so is what a console takes of a child that writes to one stream only. A newline is added
where the last line has none. -/
theorem execute_decodes_whole (launcher : Launcher π ω) (part : Part ω (Channel γ) δ)
    (device : Outlet γ) {o : Occasion π ω} {behaviour : Behaviour} {files : FileSystem π}
    (started : launcher.child? o = .ok (behaviour, files)) :
    let whole (stream : Bytes) :=
      if Text.AtLineStart stream then Text.decode stream else Text.decode stream ++ "\n"
    (∀ result, (launcher.runner.execute o.call.command o.call.context o.world).1 = .ok result →
      result.errorText = whole (behaviour.written .err)) ∧
    (device.Reliable →
      let done :=
        (launcher.atConsole part device).runner.execute o.call.command o.call.context o.world
      done.1 = .ok ⟨behaviour.status.code, whole (behaviour.written .err)⟩ ∧
      ∀ pipe, (∀ other, other ≠ pipe → behaviour.written other = []) →
        (part.get done.2.gear).taken.toList = (part.get o.world.gear).taken.toList
          ++ Text.encode (whole (behaviour.written pipe))) := by
  intro whole
  -- both the captured and the echoed text are the lines, one by one
  have joined (stream : Bytes) :
      String.join ((Text.lines stream).map shown) = whole stream := Text.join_decode_lines stream
  refine ⟨fun result ended => (errorText_of_ok started ended).trans (joined _), fun takes => ?_⟩
  have sameChild : (launcher.atConsole part device).child? o = .ok (behaviour, files) := started
  have left : ((launcher.atConsole part device).left o).gear = o.world.gear := gear_left
  intro done
  have run : done = _ := run_eq (reliable_atConsole takes) o.call o.world
  rw [run]
  refine ⟨?_, fun pipe silent => ?_⟩
  · unfold result
    rw [sameChild]
    dsimp only
    rw [joined]
  · dsimp only
    rw [taken_atConsole takes, left]
    -- the other pipe is silent, so that nothing comes between the lines of this one
    obtain ⟨other, differ⟩ : ∃ other, other ≠ pipe := by
      cases pipe with
      | out => exact ⟨.err, by decide⟩
      | err => exact ⟨.out, by decide⟩
    rw [echoed_of_silent sameChild differ (silent other differ), joined]

end Launcher

/-! ### A child -/

/-- The whole as a part of itself. -/
def wholePart : Part γ γ Unit where
  split g := (g, ())
  join g _ := g
  split_join _ _ := rfl
  join_split _ := rfl

/-- A launcher at a terminal, whose programs all do the same and leave the files as they are. -/
def echoing (behaviour : Behaviour) (device : Outlet Unit) : Launcher Unit Terminal where
  machine := ⟨fun _ _ files => (behaviour, files)⟩
  start := .root
  inherited := []
  console := Terminal.outlet device
  held := Terminal.held
  schedule _ := .out

/-- A program is run by its path, at a terminal where nothing was written yet. -/
def byPath : Occasion Unit Terminal :=
  ⟨⟨⟨"/p", []⟩, ⟨none, []⟩⟩,
    ⟨FileSystem.empty.put [Text.encode "p"] (.file ⟨2, [], true, some ()⟩), Terminal.blank⟩⟩

theorem exists_launch_byPath : ∃ program,
    launch ⟨byPath.world.files, []⟩ .root [] byPath.call.command byPath.call.context
      = .ok program := by
  have found : (launch ⟨byPath.world.files, []⟩ .root [] byPath.call.command
      byPath.call.context).isOk = true := by decide +kernel
  generalize launch ⟨byPath.world.files, []⟩ .root [] byPath.call.command byPath.call.context = out
    at found ⊢
  rcases out with cause | program
  · cases found
  · exact ⟨program, rfl⟩

/-- The child that is found at this path behaves as it is told to. -/
theorem child?_byPath (behaviour : Behaviour) (device : Outlet Unit) :
    (echoing behaviour device).child? byPath = .ok (behaviour, byPath.world.files) := by
  obtain ⟨program, launched⟩ := exists_launch_byPath
  unfold Launcher.child?
  dsimp only [echoing, Terminal.held]
  rw [launched]

namespace Launcher

/-- The first character is broken off by a newline, and the rest of it stands alone behind that. The
last line is not ended. -/
theorem execute_decodes_whole_broken :
    let behaviour : Behaviour :=
      ⟨[(.err, [97, 0xC3]), (.err, [Text.newline, 0xA9, 13]), (.err, [10, 10, 98])], [], .exited 3⟩
    let launcher := echoing behaviour .boundless
    let done := (launcher.atConsole wholePart .boundless).runner.execute byPath.call.command
      byPath.call.context byPath.world
    let text := "a\uFFFD\n\uFFFD\r\n\nb\n"
    launcher.child? byPath = .ok (behaviour, byPath.world.files) ∧ Outlet.boundless.Reliable ∧
      done.1 = .ok ⟨3, text⟩ ∧ done.2.gear.taken.toList = Text.encode text := by
  intro behaviour launcher done text
  have started : launcher.child? byPath = .ok (behaviour, byPath.world.files) :=
    child?_byPath behaviour .boundless
  have silent : ∀ other, other ≠ Pipe.err → behaviour.written other = [] := by
    rintro ⟨⟩ differ
    · rfl
    · exact absurd rfl differ
  obtain ⟨-, whole⟩ := execute_decodes_whole launcher wholePart .boundless started
  obtain ⟨ended, taken⟩ := whole Outlet.reliable_boundless
  refine ⟨started, Outlet.reliable_boundless, ?_, ?_⟩
  · exact ended.trans (by decide +kernel)
  · exact (taken .err silent).trans (by decide +kernel)

end Launcher

end Orchestrator.Child
