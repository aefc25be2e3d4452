import Orchestrator.Bench
import Orchestrator.Proofs.Commands
import Orchestrator.Proofs.Run

namespace Orchestrator

/-!
# Traces — what a run leaves on a bench

On a bench the log and the runner have nothing to do with each other. The moves of a run, which know
of both, come apart there:

* `Bench.Grown` — what was added to both devices and to the calls.
* `Bench.of_leads` — the bytes of the moves are what the devices took, their deeds are the calls.
* `CarriesOut` — the plan of a project, cut after the first thing that does not pass.
* `Responder.Traces` — legs that tell what a runner was asked, what it answered, and what each stage
  had to have run on the file system as it was left by then.
* `Bench.runMatrix_traces` — a run leaves a trace: its legs, all calls, and all bytes.
-/

variable {π γ τ ρ : Type}

/-! ### Runners left to themselves -/

namespace Responder

/-- The runner and the file system after some calls. -/
def after (respond : Responder π ρ) (s : ρ × FileSystem π) (calls : List Call) :
    ρ × FileSystem π :=
  calls.foldl (fun s call => (respond call s.1 s.2).2) s

@[simp] theorem after_nil (respond : Responder π ρ) (s : ρ × FileSystem π) :
    respond.after s [] = s := rfl

@[simp] theorem after_cons (respond : Responder π ρ) (s : ρ × FileSystem π) (call : Call)
    (calls : List Call) :
    respond.after s (call :: calls) = respond.after (respond call s.1 s.2).2 calls := rfl

/-- Calls and then other calls are made like all of them in a row. -/
theorem after_append (respond : Responder π ρ) (s : ρ × FileSystem π) (calls calls' : List Call) :
    respond.after s (calls ++ calls') = respond.after (respond.after s calls) calls' :=
  List.foldl_append

end Responder

/-! ### The plan, cut -/

/-- The plan of a project, cut after the first thing that does not pass. -/
structure CarriesOut (config : Config) (legs : List Leg) (verdict : Except Fault Outcome) :
    Prop where
  /-- The stages that were begun are the first of the plan. -/
  rows : legs.map Leg.row <+: config.plan
  /-- The calls made in each are the first of those that were to be made. -/
  calls : ∀ leg ∈ legs, leg.calls <+: leg.planned config
  /-- No stage is begun after one that did not pass. -/
  stages : ∀ leg ∈ legs.dropLast, leg.Passed config
  /-- No command is run after one that did not succeed. -/
  commands : ∀ deed ∈ (legs.flatMap Leg.deeds).dropLast, deed.Passed
  /-- The run passed if the whole plan was carried out and everything passed. -/
  passed_iff : verdict = .ok .passed ↔
    legs.map Leg.row = config.plan ∧ ∀ leg ∈ legs, leg.Passed config
  /-- The run failed in the stage that did, under its toolchain. -/
  failed_iff : ∀ compiler stage, verdict = .ok (.failed compiler stage) ↔
    ∃ leg ∈ legs, leg.Failed ∧ leg.toolchain.id = compiler ∧ leg.stage = stage
  /-- The run ended with the fault that the runner ended with. -/
  stopped_iff : ∀ fault, verdict = .error fault ↔ ∃ leg ∈ legs, leg.StoppedBy fault

/-- A course of the whole plan carries it out. -/
theorem Course.carriesOut {config : Config} {legs : List Leg} {verdict : Except Fault Outcome}
    (h : Course config config.plan legs verdict) : CarriesOut config legs verdict where
  rows := h.rows_prefix
  calls := h.calls_prefix
  stages := h.passed_of_mem_dropLast
  commands := h.deed_passed_of_mem_dropLast
  passed_iff := eq_comm.trans (h.tells_iff (.ok .passed)).symm
  failed_iff compiler stage := eq_comm.trans (h.tells_iff (.ok (.failed compiler stage))).symm
  stopped_iff fault := eq_comm.trans (h.tells_iff (.error fault)).symm

/-- `respond.Traces start config before legs verdict`: started with the runner and the files
`before`, a run that is called from `start` goes through these legs and ends so. -/
structure Responder.Traces (respond : Responder π ρ) (start : Place) (config : Config)
    (before : ρ × FileSystem π) (legs : List Leg) (verdict : Except Fault Outcome) : Prop
    extends CarriesOut config legs verdict where
  /-- What a stage has to have run is settled once, when it is begun: the examples are those in the
  directory as all earlier calls have left it. -/
  found : ∀ earlier leg later, legs = earlier ++ leg :: later →
    leg.stage.Requires config
      ((respond.after before (earlier.flatMap Leg.calls)).2.list start config.examplesDir)
      leg.commands?
  /-- Every answer is the one of the runner as all earlier calls have left it. -/
  answered : ∀ earlier deed later, legs.flatMap Leg.deeds = earlier ++ deed :: later →
    deed.answer = (respond deed.call (respond.after before (earlier.map Deed.call)).1
      (respond.after before (earlier.map Deed.call)).2).1

/-- A stage that passed has made the calls that it had to make. -/
theorem Leg.Passed.calls_eq {config : Config} {leg : Leg} {listing : Except Cause (List Bytes)}
    {commands : List CommandLine} (h : leg.Passed config)
    (found : leg.stage.Requires config listing leg.commands?)
    (required : leg.stage.Requires config listing (some commands)) :
    leg.calls = commands.map fun command => ⟨command, config.contextOf leg.toolchain⟩ := by
  rw [h.2.1, Leg.planned, found.unique required, Option.getD_some]

/-- In a trace, every answer is one that the runner gives. -/
theorem Responder.Traces.exists_answer {respond : Responder π ρ} {start : Place} {config : Config}
    {before : ρ × FileSystem π} {legs : List Leg} {verdict : Except Fault Outcome}
    (h : respond.Traces start config before legs verdict) {leg : Leg} (mem : leg ∈ legs)
    {deed : Deed} (mem' : deed ∈ leg.deeds) :
    ∃ r files, deed.answer = (respond deed.call r files).1 := by
  obtain ⟨earlier, later, split⟩ := List.append_of_mem (List.mem_flatMap.2 ⟨leg, mem, mem'⟩)
  exact ⟨_, _, h.answered earlier deed later split⟩

/-! ### What moves say -/

namespace Move

/-- The bytes that a move adds to the log. -/
def bytes : Move → Bytes
  | .logged text => Text.encode text
  | _ => []

/-- The command that a move runs. -/
def deed? : Move → Option Deed
  | .ran deed => some deed
  | _ => none

@[simp] theorem deed?_logged (text : String) : deed? (.logged text) = none := rfl

@[simp] theorem deed?_looked (stage : Stage) (commands? : Option (List CommandLine)) :
    deed? (.looked stage commands?) = none := rfl

@[simp] theorem deed?_ran (deed : Deed) : deed? (.ran deed) = some deed := rfl

/-- Texts that are logged run nothing. -/
@[simp] theorem deeds_logged (texts : List String) :
    texts.filterMap (deed? ∘ Move.logged) = [] := by simp

end Move

/-- The moves of a command run it once. -/
@[simp] theorem Deed.deeds_moves (deed : Deed) : deed.moves.filterMap Move.deed? = [deed] := by
  simp [Deed.moves, List.filterMap_cons]

/-- The moves of a leg run its commands. -/
@[simp] theorem Leg.deeds_moves (leg : Leg) : leg.moves.filterMap Move.deed? = leg.deeds := by
  simp [Leg.moves, List.filterMap_cons, List.filterMap_flatMap]

/-- The moves of a run run the commands of its legs, in order. -/
theorem deeds_account (headed : Bool) (legs : List Leg) (verdict : Except Fault Outcome) :
    (account headed legs verdict).filterMap Move.deed? = legs.flatMap Leg.deeds := by
  simp [account, List.filterMap_cons, List.filterMap_flatMap]

/-- The commands of a leg are looked up when just the deeds of the legs before it are done. -/
theorem looked_account (headed : Bool) (earlier later : List Leg) (leg : Leg)
    (verdict : Except Fault Outcome) :
    ∃ before rest, account headed (earlier ++ leg :: later) verdict
        = before ++ .looked leg.stage leg.commands? :: rest ∧
      before.filterMap Move.deed? = earlier.flatMap Leg.deeds := by
  refine ⟨(overture headed).map .logged ++ earlier.flatMap Leg.moves ++
      leg.stage.opening.map .logged, leg.deeds.flatMap Deed.moves ++ later.flatMap Leg.moves ++
      [.logged (lastLine verdict)], ?_, ?_⟩
  · simp [account, Leg.moves]
  · simp [List.filterMap_flatMap]

/-! ### Benches -/

namespace Bench

/-- `Grown respond w bytes calls w'`: both devices have taken the bytes, and the calls were made;
the runner and the file system are as the calls have left them. -/
structure Grown (respond : Responder π ρ) (w : World π (Bench γ τ ρ)) (bytes : Bytes)
    (calls : List Call) (w' : World π (Bench γ τ ρ)) : Prop where
  console : w'.gear.console.taken.toList = w.gear.console.taken.toList ++ bytes
  transcript : w'.gear.transcript.taken.toList = w.gear.transcript.taken.toList ++ bytes
  left : (w'.gear.runner, w'.files) = respond.after (w.gear.runner, w.files) calls
  calls : w'.gear.calls.toList = w.gear.calls.toList ++ calls

/-- Nothing happened, and nothing grew. -/
theorem Grown.refl (respond : Responder π ρ) (w : World π (Bench γ τ ρ)) :
    Grown respond w [] [] w := by constructor <;> simp

/-- What two parts of a run have added is added by both together. -/
theorem Grown.trans {respond : Responder π ρ} {w w' w'' : World π (Bench γ τ ρ)}
    {bytes bytes' : Bytes} {calls calls' : List Call} (h : Grown respond w bytes calls w')
    (h' : Grown respond w' bytes' calls' w'') :
    Grown respond w (bytes ++ bytes') (calls ++ calls') w'' where
  console := by rw [h'.console, h.console, List.append_assoc]
  transcript := by rw [h'.transcript, h.transcript, List.append_assoc]
  calls := by rw [h'.calls, h.calls, List.append_assoc]
  left := by rw [h'.left, h.left, Responder.after_append]

/-- Writing to the console of a bench changes its channel alone. -/
theorem consoleOutlet_emit (device : Outlet γ) (text : String) (w : World π (Bench γ τ ρ)) :
    (consoleOutlet device).emit text w
      = ((device.kept.emit text w.gear.console).1,
        ⟨w.files, { w.gear with console := (device.kept.emit text w.gear.console).2 }⟩) := by
  rw [consoleOutlet, Outlet.emit_within, Outlet.emit_within]
  rfl

/-- Writing to the transcript of a bench changes its channel alone. -/
theorem transcriptOutlet_emit (device : Outlet τ) (text : String) (w : World π (Bench γ τ ρ)) :
    (transcriptOutlet device).emit text w
      = ((device.kept.emit text w.gear.transcript).1,
        ⟨w.files, { w.gear with transcript := (device.kept.emit text w.gear.transcript).2 }⟩) := by
  rw [transcriptOutlet, Outlet.emit_within, Outlet.emit_within]
  rfl

variable {console : Outlet γ} {transcript : Outlet τ}

/-- A log on two devices that do not fail does not fail. -/
theorem reliable_sink (takes : console.Reliable) (takes' : transcript.Reliable) :
    (sink console transcript : Sink (World π (Bench γ τ ρ))).Reliable :=
  Sink.reliable_of_outlets ((takes.kept.within consolePart).within (World.gearPart _ _))
    ((takes'.kept.within transcriptPart).within (World.gearPart _ _))

/-- A text that both devices take is logged. -/
theorem log_of_emits {text : String} {w : World π (Bench γ τ ρ)} {c : Channel γ} {t : Channel τ}
    (shown : console.kept.emit text w.gear.console = (.ok (), c))
    (written : transcript.kept.emit text w.gear.transcript = (.ok (), t)) (headed : Bool) :
    (sink console transcript).log text ⟨w, headed⟩
      = (.ok (), ⟨⟨w.files, { w.gear with console := c, transcript := t }⟩, headed⟩) := by
  simp only [Sink.log_apply, sink, consoleOutlet_emit, transcriptOutlet_emit, shown, written]

/-- A text that the console does not take is kept from the transcript. -/
theorem log_of_not_shown {text : String} {w : World π (Bench γ τ ρ)} {c : Channel γ}
    {cause : Cause} (shown : console.kept.emit text w.gear.console = (.error cause, c))
    (transcript : Outlet τ) (headed : Bool) :
    (sink console transcript).log text ⟨w, headed⟩
      = (.error (.console cause), ⟨⟨w.files, { w.gear with console := c }⟩, headed⟩) := by
  simp only [Sink.log_apply, sink, consoleOutlet_emit, shown]

/-- A text that is logged is added to both devices, and no call is made. -/
theorem grown_noted (takes : console.Reliable) (takes' : transcript.Reliable)
    (respond : Responder π ρ) (text : String) (w : World π (Bench γ τ ρ)) :
    Grown respond w (Text.encode text) [] ((sink console transcript).noted text w) := by
  obtain ⟨c, shown, took⟩ := takes.exists_emit text w.gear.console
  obtain ⟨t, written, took'⟩ := takes'.exists_emit text w.gear.transcript
  rw [Sink.noted, log_of_emits shown written]
  exact ⟨took, took', rfl, by simp⟩

/-- A command that is run adds its call, and nothing to either device. -/
theorem grown_execute (respond : Responder π ρ) (call : Call) (w : World π (Bench γ τ ρ)) :
    Grown respond w [] [call] ((runnerOf respond).execute call.command call.context w).2 where
  console := (List.append_nil _).symm
  transcript := (List.append_nil _).symm
  calls := Array.toList_push
  left := rfl

variable {start : Place} {respond : Responder π ρ} {config : Config}
  {w w' : World π (Bench γ τ ρ)} {moves : List Move}

/-- The bytes of the moves are what the devices have taken, and their deeds are the calls. -/
theorem of_leads (takes : console.Reliable) (takes' : transcript.Reliable)
    (h : (host start console transcript respond).Leads config w moves w') :
    Grown respond w (moves.flatMap Move.bytes) ((moves.filterMap Move.deed?).map Deed.call) w' := by
  induction h with
  | done => exact .refl respond _
  | logged more ih => exact (grown_noted takes takes' respond _ _).trans ih
  | looked more ih => exact ih
  | ran more ih => exact (grown_execute respond _ _).trans ih

/-- Every answer is the one of the runner as all earlier calls have left it. -/
theorem answer_of_leads (takes : console.Reliable) (takes' : transcript.Reliable)
    (h : (host start console transcript respond).Leads config w moves w')
    {earlier later : List Deed} {deed : Deed}
    (split : moves.filterMap Move.deed? = earlier ++ deed :: later) :
    deed.answer = (respond deed.call
      (respond.after (w.gear.runner, w.files) (earlier.map Deed.call)).1
      (respond.after (w.gear.runner, w.files) (earlier.map Deed.call)).2).1 := by
  -- cut the moves just before the one that runs the command
  obtain ⟨before, tail, rfl, rfl, next⟩ := List.filterMap_eq_append_iff.1 split
  obtain ⟨gap, move, rest, rfl, silent, ran, rfl⟩ := List.filterMap_eq_cons_iff.1 next
  obtain ⟨mid, begun, more⟩ := Host.Leads.of_append (List.append_assoc _ _ _ ▸ h)
  have grown := of_leads takes takes' begun
  rw [List.filterMap_append, List.filterMap_eq_nil_iff.2 silent, List.append_nil] at grown
  rw [← grown.left]
  cases more with
  | logged more => simp at ran
  | looked more => simp at ran
  | ran more =>
    obtain rfl := Option.some.inj ran
    rfl

/-- What a stage has to have run is settled by the files as all earlier calls have left them. -/
theorem requires_of_leads (takes : console.Reliable) (takes' : transcript.Reliable)
    {before rest : List Move} {stage : Stage} {commands? : Option (List CommandLine)}
    (h : (host start console transcript respond).Leads config w
      (before ++ .looked stage commands? :: rest) w') :
    stage.Requires config
      ((respond.after (w.gear.runner, w.files)
        ((before.filterMap Move.deed?).map Deed.call)).2.list start config.examplesDir)
      commands? := by
  -- the file system is looked at where the moves before have led
  obtain ⟨mid, begun, more⟩ := h.of_append
  rw [← (of_leads takes takes' begun).left]
  exact ((host start console transcript respond).requires_iff config mid.files stage).2
    more.looked_eq

/-- **Trace of a run.** A run on a bench whose devices do not fail leaves its trace: the calls of
its legs, in order, and the bytes of their account, on both devices. -/
theorem runMatrix_traces (takes : console.Reliable) (takes' : transcript.Reliable)
    (start : Place) (respond : Responder π ρ) (config : Config)
    (s : Session (World π (Bench γ τ ρ)))
    (root : s.world.files.isDirectory start config.projectRoot = true) :
    let host := host start console transcript respond
    let run := host.runMatrix config s
    ∃ legs : List Leg,
      respond.Traces start config (s.world.gear.runner, s.world.files) legs run.1 ∧
      Grown respond s.world ((account s.headed legs run.1).flatMap Move.bytes)
        (legs.flatMap Leg.calls) run.2.world ∧ run.2.headed = true := by
  intro host run
  obtain ⟨legs, outcome, w, course, ends, leads⟩ :=
    host.does_runMatrix config (reliable_sink takes takes') s root
  obtain rfl : run.1 = outcome := congrArg Prod.fst ends
  obtain rfl : run.2.world = w := congrArg (fun r => r.2.world) ends
  have calls (legs : List Leg) :
      (legs.flatMap Leg.deeds).map Deed.call = legs.flatMap Leg.calls := List.map_flatMap
  refine ⟨legs, ⟨course.carriesOut, ?_, ?_⟩, ?_, congrArg (fun r => r.2.headed) ends⟩
  · -- what a leg looked up was found after the calls of the legs before it
    rintro earlier leg later rfl
    obtain ⟨before, rest, split, done⟩ := looked_account s.headed earlier later leg run.1
    have requires := requires_of_leads takes takes' (split ▸ leads)
    rwa [done, calls] at requires
  · intro earlier deed later split
    exact answer_of_leads takes takes' leads ((deeds_account _ _ _).trans split)
  · have grown := of_leads takes takes' leads
    rwa [deeds_account, calls] at grown

/-! ### A small bench -/

/-- A runner that counts its calls and fails the third. -/
def thirdFails : Responder Unit Nat := fun _ count files =>
  (.ok ⟨if count = 2 then 1 else 0, "third\n"⟩, count + 1, files)

/-- A project at the root of the file system. -/
def rootProject : Config := .forProject ⟨[Path.slash]⟩ (.ofString "log")

/-- An empty file system and a bench on which nothing has happened. -/
def untouched : Session (World Unit (Bench Unit Unit Nat)) := ⟨⟨.empty, .new () () 0⟩, false⟩

/-- The runner that counts its calls leaves all files as they are. -/
theorem after_thirdFails (before : Nat × FileSystem Unit) (calls : List Call) :
    (thirdFails.after before calls).2 = before.2 := by
  induction calls generalizing before with
  | nil => rfl
  | cons call rest ih => exact ih _

end Bench

end Orchestrator
