import Orchestrator.Child.Runner
import Orchestrator.Proofs.Child.Reading
import Orchestrator.Proofs.Trace

namespace Orchestrator

/-!
# Occasions — the commands of a run, each in the world that it finds

What a command does depends on the world that it is run in: whether its program is found there, and
what the program then does. A run tells nothing of that but an answer.

* `Occasion` — a command that is run, and the world that it finds.
* `Host.occasions` — all occasions of a run, told from its moves.
* `Host.lookouts` — the files on which the commands of its stages were looked up.
* `Launcher.child?` — the child that is started on an occasion, if one is.
* `Launcher.run_eq` — what the runner that starts programs does with it.
-/

/-- A command that is run, and the world that it finds. -/
structure Occasion (π ω : Type) where
  call : Call
  world : World π ω

/-- The occasions on which commands are run when some moves are made in a world. -/
def Host.occasions {π ω : Type} (host : Host π ω) : World π ω → List Move → List (Occasion π ω)
  | _, [] => []
  | w, .logged text :: rest => host.occasions (host.sink.noted text w) rest
  | w, .looked _ _ :: rest => host.occasions w rest
  | w, .ran deed :: rest =>
    ⟨deed.call, w⟩ ::
      host.occasions (host.runner.execute deed.call.command deed.call.context w).2 rest

/-- The files on which commands are looked up when some moves are made in a world. -/
def Host.lookouts {π ω : Type} (host : Host π ω) : World π ω → List Move → List (FileSystem π)
  | _, [] => []
  | w, .logged text :: rest => host.lookouts (host.sink.noted text w) rest
  | w, .looked _ _ :: rest => w.files :: host.lookouts w rest
  | w, .ran deed :: rest =>
    host.lookouts (host.runner.execute deed.call.command deed.call.context w).2 rest

/-- The stage for which a move looks up the commands, and what it finds. -/
def Move.lookup? : Move → Option (Stage × Option (List CommandLine))
  | .looked stage commands? => some (stage, commands?)
  | _ => none

@[simp] theorem Move.lookup?_logged (text : String) : lookup? (.logged text) = none := rfl

@[simp] theorem Move.lookup?_looked (stage : Stage) (commands? : Option (List CommandLine)) :
    lookup? (.looked stage commands?) = some (stage, commands?) := rfl

@[simp] theorem Move.lookup?_ran (deed : Deed) : lookup? (.ran deed) = none := rfl

/-- Moves that log texts look nothing up. -/
@[simp] theorem Move.lookups_logged (texts : List String) :
    texts.filterMap (lookup? ∘ Move.logged) = [] := by simp

/-- For every leg of a run the commands are looked up once, when its stage is begun. -/
theorem lookups_account (headed : Bool) (legs : List Leg) (verdict : Except Fault Outcome) :
    (account headed legs verdict).filterMap Move.lookup?
      = legs.map fun leg => (leg.stage, leg.commands?) := by
  have commands (deed : Deed) : deed.moves.filterMap Move.lookup? = [] := by
    simp [Deed.moves, List.filterMap_cons]
  have legs (leg : Leg) :
      leg.moves.filterMap Move.lookup? = [(leg.stage, leg.commands?)] := by
    simp [Leg.moves, List.filterMap_flatMap, commands]
  simp [account, List.filterMap_cons, List.filterMap_flatMap, legs, ← List.map_eq_flatMap]

/-- What is looked up for a stage is what it has to have run on the files of that time. -/
theorem Host.Leads.requires_lookouts {π ω : Type} {host : Host π ω} {config : Config}
    {w w' : World π ω} {moves : List Move} (h : host.Leads config w moves w') :
    List.Forall₂ (fun (lookup : Stage × Option (List CommandLine)) files =>
        lookup.1.Requires config (files.list host.start config.examplesDir) lookup.2)
      (moves.filterMap Move.lookup?) (host.lookouts w moves) := by
  induction h with
  | done => exact .nil
  | logged more ih => exact ih
  | looked more ih => exact .cons (host.requires_stageCommands? config _ _) ih
  | ran more ih => exact ih

namespace Child.Launcher

variable {π ω : Type} (launcher : Launcher π ω) (o : Occasion π ω)

/-- The child that is started on an occasion, with the files that it leaves; or why none is. -/
def child? : Except Cause (Behaviour × FileSystem π) :=
  match launch ⟨o.world.files, launcher.held o.world.gear⟩ launcher.start launcher.inherited
    o.call.command o.call.context with
  | .error cause => .error cause
  | .ok (program, given) => .ok (launcher.machine.run program given o.world.files)

/-- How the command ends: as its child does, with the lines of the error stream; and in a way of its
own if no child could be started. -/
def result : CommandResult :=
  match launcher.child? o with
  | .error cause => ⟨launchFailureCode, launchFailureText o.call.command cause⟩
  | .ok (behaviour, _) =>
    ⟨behaviour.status.code, String.join ((Text.lines (behaviour.written .err)).map shown)⟩

/-- The lines that are echoed, in order. -/
def echoed : List Bytes :=
  match launcher.child? o with
  | .error _ => []
  | .ok (behaviour, _) =>
    (readings launcher.schedule 0
      (.ofStreams (behaviour.written .out) (behaviour.written .err))).map (·.2)

/-- The world that the child leaves, before anything is echoed. -/
def left : World π ω :=
  match launcher.child? o with
  | .error _ => o.world
  | .ok (_, files) => { o.world with files := files }

variable {launcher}

/-- A runner that starts programs reads what its child writes to the end. -/
theorem execute_eq (call : Call) (w : World π ω) :
    launcher.runner.execute call.command call.context w =
      match launcher.child? ⟨call, w⟩ with
      | .error cause => (.ok ⟨launchFailureCode, launchFailureText call.command cause⟩, w)
      | .ok (behaviour, files) =>
        let pipes := Pipes.ofStreams (behaviour.written .out) (behaviour.written .err)
        match drain launcher.console launcher.schedule 0 "" pipes { w with files := files } with
        | (.error fault, after) => (.error fault, after)
        | (.ok captured, after) => (.ok ⟨behaviour.status.code, captured⟩, after) := by
  unfold Launcher.runner child?
  dsimp only [Launcher.run]
  rcases launch ⟨w.files, launcher.held w.gear⟩ launcher.start launcher.inherited call.command
    call.context with cause | ⟨program, given⟩ <;> rfl

/-- **What a runner that starts programs does.** It ends as the child does, and leaves what the
child leaves, with its lines echoed. -/
theorem run_eq (reliable : launcher.console.Reliable) (call : Call) (w : World π ω) :
    launcher.runner.execute call.command call.context w =
      (.ok (launcher.result ⟨call, w⟩),
        echoAll launcher.console (launcher.echoed ⟨call, w⟩) (launcher.left ⟨call, w⟩)) := by
  rw [execute_eq]
  unfold result echoed left
  rcases launcher.child? ⟨call, w⟩ with cause | ⟨behaviour, files⟩
  · rfl
  · dsimp only
    rw [drain_eq reliable]
    simp [Pipes.ofStreams, Pipes.left]

/-! ### What is asked of children -/

variable (launcher)

/-- If a child is started, it leaves alone what stands at a location. -/
def Spares (at_ : Location) : Prop := ∀ behaviour files,
  launcher.child? o = .ok (behaviour, files) → files.node? at_ = o.world.files.node? at_

/-- If a child is started, it writes to one of its streams only. -/
def SpeaksOnce : Prop := ∀ behaviour files, launcher.child? o = .ok (behaviour, files) →
  behaviour.written .out = [] ∨ behaviour.written .err = []

/-- The lines of the child that is started, if one is: those of its output and of its error
stream. -/
def spoken : List Bytes :=
  match launcher.child? o with
  | .error _ => []
  | .ok (behaviour, _) =>
    Text.lines (behaviour.written .out) ++ Text.lines (behaviour.written .err)

variable {launcher o}

/-- What a child spares stands where it stood. -/
theorem node?_left {at_ : Location} (spares : launcher.Spares o at_) :
    (launcher.left o).files.node? at_ = o.world.files.node? at_ := by
  unfold left
  rcases started : launcher.child? o with cause | ⟨behaviour, files⟩
  · rfl
  · exact spares behaviour files started

/-- A child changes the files, and nothing of the gear. -/
theorem gear_left : (launcher.left o).gear = o.world.gear := by
  unfold left
  split <;> rfl

/-- If one stream is silent, the lines of the other one are echoed in their order. -/
theorem echoed_of_silent {behaviour : Behaviour} {files : FileSystem π}
    (started : launcher.child? o = .ok (behaviour, files)) {silent pipe : Pipe}
    (differ : silent ≠ pipe) (nothing : behaviour.written silent = []) :
    launcher.echoed o = Text.lines (behaviour.written pipe) := by
  have none : (Pipes.ofStreams (behaviour.written .out) (behaviour.written .err)).left silent
      = [] := by
    rw [Pipes.left_ofStreams, nothing, Text.lines_nil]
  unfold echoed
  rw [started]
  dsimp only
  rw [map_readings _ _ differ none, Pipes.left_ofStreams]

/-- The lines of one stream are echoed in their order. -/
theorem echoed_eq_spoken (once : launcher.SpeaksOnce o) :
    launcher.echoed o = launcher.spoken o := by
  unfold spoken
  rcases started : launcher.child? o with cause | ⟨behaviour, files⟩
  · rw [echoed, started]
  dsimp only
  rcases once behaviour files started with silent | silent
  · have echoed : launcher.echoed o = Text.lines (behaviour.written .err) :=
      echoed_of_silent started (by decide) silent
    rw [echoed, silent, Text.lines_nil, List.nil_append]
  · have echoed : launcher.echoed o = Text.lines (behaviour.written .out) :=
      echoed_of_silent started (by decide) silent
    rw [echoed, silent, Text.lines_nil, List.append_nil]

end Child.Launcher

end Orchestrator
