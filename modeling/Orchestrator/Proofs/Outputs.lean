import Mathlib.Data.List.Forall2
import Orchestrator.Proofs.Desk
import Orchestrator.Proofs.Transcript

namespace Orchestrator

/-!
# Outputs — the terminal and the transcript of a run

The terminal is written by three: the program tells where it logs, the log goes there as it goes to
the transcript, and the lines of every child are echoed. The transcript is written by the log alone.

* `Caller.Scene` — a leg of a run, with the files that its stage found and the occasions on which its
  commands were run.
* `Caller.renderWith` — the text of a run, with something put in behind each announcement.
* `Caller.weave_account` — what the moves of a run write, told from its scenes.
* `Caller.Plays` — the scenes are those of a run.
* `Caller.integrate_outputs` — the transcript is the text of the run with nothing put in, and the
  terminal the same with the lines of the children.
* `Caller.not_outputs_keepingNothing` — for that the log has to be a file, and the disk to take it.
-/

namespace Caller

variable {π δ : Type}

/-! ### Scenes -/

/-- A leg of a run, with the files that its stage found when it was begun, and the occasions on which
its commands were run. -/
structure Scene (caller : Caller π δ) (config : Config) where
  leg : Leg
  found : FileSystem π
  occasions : List (Occasion π (Desk δ))
  /-- What the stage had to have run is settled by the files that it found. -/
  requires : leg.stage.Requires config (found.list caller.start config.examplesDir) leg.commands?
  /-- The commands have ended as they had to on these occasions. -/
  deeds_eq : leg.deeds = occasions.map caller.deed

variable {caller : Caller π δ} {config : Config}

/-- The look-ups and the occasions of a run belong to its legs. -/
theorem exists_scenes {legs : List Leg} {founds : List (FileSystem π)}
    {occasions : List (Occasion π (Desk δ))}
    (requires : List.Forall₂ (fun (leg : Leg) files =>
      leg.stage.Requires config (files.list caller.start config.examplesDir) leg.commands?)
      legs founds)
    (all : legs.flatMap Leg.deeds = occasions.map caller.deed) :
    ∃ scenes : List (caller.Scene config), scenes.map Scene.leg = legs ∧
      scenes.map Scene.found = founds ∧ scenes.flatMap Scene.occasions = occasions := by
  -- the occasions are cut where the deeds of a leg end
  induction requires generalizing occasions with
  | nil => exact ⟨[], rfl, rfl, by simpa using all.symm⟩
  | @cons leg found rest founds required more ih =>
    obtain ⟨first, later, rfl, own, others⟩ := List.append_eq_map_iff.1 all
    obtain ⟨scenes, rfl, rfl, rfl⟩ := ih others.symm
    exact ⟨⟨leg, found, first, required, own.symm⟩ :: scenes, rfl, rfl, rfl⟩

variable (caller) in
/-- The text about a command: its announcement, what is put in there, and what came of it. -/
def textWith (insert : Occasion π (Desk δ) → String) (o : Occasion π (Desk δ)) : String :=
  (caller.deed o).announced ++ insert o ++ (caller.deed o).outcome

/-- The text about a scene: the heading of its stage, if it has one, and its commands. -/
def Scene.textWith (insert : Occasion π (Desk δ) → String) (scene : caller.Scene config) : String :=
  scene.leg.stage.heading ++ String.join (scene.occasions.map (caller.textWith insert))

/-- The text of a run, with something put in just behind the announcement of every command. -/
def renderWith (insert : Occasion π (Desk δ) → String) (scenes : List (caller.Scene config))
    (verdict : Except Fault Outcome) : String :=
  "[----------] " ++ unitTestHeading ++ "\n" ++ String.join (scenes.map (Scene.textWith insert))
    ++ lastLine verdict

/-! ### Weaving -/

/-- Texts that are logged come first, whatever is echoed later. -/
theorem weave_logged (texts : List String) (rest : List Move) (echoes : List Bytes) :
    weave (texts.map .logged ++ rest) echoes
      = Text.encode (String.join texts) ++ weave rest echoes := by
  induction texts with
  | nil => rfl
  | cons text texts ih =>
    rw [List.map_cons, List.cons_append, weave, ih, String.join_cons, Text.encode_append,
      List.append_assoc]

variable (insert : Occasion π (Desk δ) → String)

/-- What the moves of a command write is its text. -/
theorem weave_deed (o : Occasion π (Desk δ)) (rest : List Move) (echoes : List Bytes) :
    weave ((caller.deed o).moves ++ rest) (Text.encode (insert o) :: echoes)
      = Text.encode (caller.textWith insert o) ++ weave rest echoes := by
  have announced : Text.encode (Banner.run.line (caller.deed o).call.command.display)
      = Text.encode (caller.deed o).announced := rfl
  rw [Deed.moves, List.cons_append, List.cons_append, weave, weave, weave_logged, announced,
    Deed.join_report, textWith, Text.encode_append, Text.encode_append]
  simp

/-- What the moves of commands write are their texts, one after the other. -/
theorem weave_deeds (occasions : List (Occasion π (Desk δ))) (rest : List Move)
    (echoes : List Bytes) :
    weave ((occasions.map caller.deed).flatMap Deed.moves ++ rest)
        (occasions.map (fun o => Text.encode (insert o)) ++ echoes)
      = Text.encode (String.join (occasions.map (caller.textWith insert)))
        ++ weave rest echoes := by
  induction occasions with
  | nil => rfl
  | cons o occasions ih =>
    rw [List.map_cons, List.map_cons, List.map_cons, List.flatMap_cons, List.append_assoc,
      List.cons_append, weave_deed, ih, String.join_cons, Text.encode_append, List.append_assoc]

/-- What the moves of legs write are the texts of their scenes. -/
theorem weave_scenes (scenes : List (caller.Scene config)) (rest : List Move) (echoes : List Bytes) :
    weave ((scenes.map Scene.leg).flatMap Leg.moves ++ rest)
        ((scenes.flatMap Scene.occasions).map (fun o => Text.encode (insert o)) ++ echoes)
      = Text.encode (String.join (scenes.map (Scene.textWith insert))) ++ weave rest echoes := by
  induction scenes with
  | nil => rfl
  | cons scene scenes ih =>
    rw [List.map_cons, List.flatMap_cons, List.flatMap_cons, List.map_append, List.append_assoc,
      List.append_assoc, Leg.moves, List.append_assoc, weave_logged, Stage.join_opening,
      List.cons_append, weave, scene.deeds_eq, weave_deeds, ih, List.map_cons, String.join_cons, Scene.textWith,
      Text.encode_append, Text.encode_append]
    simp only [List.append_assoc]

/-- **What the moves of a run write.** It is the text of the run, with what is put in. -/
theorem weave_account (scenes : List (caller.Scene config)) (verdict : Except Fault Outcome) :
    weave (account false (scenes.map Scene.leg) verdict)
        ((scenes.flatMap Scene.occasions).map fun o => Text.encode (insert o))
      = Text.encode (renderWith insert scenes verdict) := by
  have woven := weave_scenes insert scenes [.logged (lastLine verdict)] []
  rw [List.append_nil] at woven
  have opened : String.join (overture false) = "[----------] " ++ unitTestHeading ++ "\n" := by
    rw [join_overture]
    rfl
  rw [account, List.append_assoc, weave_logged, woven, opened, renderWith, Text.encode_append,
    Text.encode_append, List.append_assoc]
  simp [weave]

/-- Moves with nothing put in write what they log. -/
theorem weave_silent (moves : List Move) (occasions : List (Occasion π (Desk δ))) :
    weave moves (occasions.map fun _ => []) = moves.flatMap Move.bytes := by
  induction moves generalizing occasions with
  | nil => rfl
  | cons move rest ih =>
    -- where nothing is put in, it does not matter whether any occasions are left
    cases move with
    | logged text => rw [weave, ih, List.flatMap_cons, Move.bytes]
    | looked stage commands? => exact ih occasions
    | ran deed =>
      cases occasions with
      | nil => exact ih []
      | cons o occasions => exact ih occasions

/-! ### The two outputs -/

variable (caller) in
/-- What is heard of a command: the lines of its child, as they are shown. -/
def voice (o : Occasion π (Desk δ)) : String :=
  String.join ((caller.deskLauncher.spoken o).map Child.shown)

/-- What is echoed of a child that speaks on one stream is what is heard of it. -/
theorem echo_eq_voice {o : Occasion π (Desk δ)} (once : caller.deskLauncher.SpeaksOnce o) :
    caller.echo o = Text.encode (caller.voice o) := by
  rw [echo, Child.Launcher.echoed_eq_spoken once, voice]

/-- Of a child both streams are heard. The log has its error stream, if the command failed. -/
theorem voice_of_child {o : Occasion π (Desk δ)} {behaviour : Child.Behaviour}
    {left : FileSystem π} (started : caller.deskLauncher.child? o = .ok (behaviour, left)) :
    caller.voice o = String.join ((Text.lines (behaviour.written .out)).map Child.shown)
      ++ (caller.deskLauncher.result o).errorText := by
  simp [voice, Child.Launcher.spoken, Child.Launcher.result, started, String.join_append]

variable {handle : FileSystem.Handle}

variable (caller config handle) in
/-- The scenes are those of a run that is logged to an open file: it carries them out, one after the
other, and it finds in the world what they tell. -/
structure Plays (before : World π (Desk δ)) (scenes : List (caller.Scene config))
    (verdict : Except Fault Outcome) (after : World π (Desk δ)) : Prop where
  carriesOut : CarriesOut config (scenes.map Scene.leg) verdict
  leads : (caller.integrationHost handle).Leads config before
    (account false (scenes.map Scene.leg) verdict) after
  founds : scenes.map Scene.found = (caller.integrationHost handle).lookouts before
    (account false (scenes.map Scene.leg) verdict)
  occasions : scenes.flatMap Scene.occasions = (caller.integrationHost handle).occasions before
    (account false (scenes.map Scene.leg) verdict)

/-- At a desk whose transcript takes all that it is given, a run in a project whose root is a
directory goes through scenes. -/
theorem exists_plays {w : World π (Desk δ)} (takes : (handle.medium caller.disk).Reliable)
    (directory : w.files.isDirectory caller.start config.projectRoot = true) :
    ∃ scenes verdict after, caller.Plays config handle w scenes verdict after ∧
      (caller.integrationHost handle).runMatrix config ⟨w, false⟩ = (verdict, ⟨after, true⟩) := by
  let host := caller.integrationHost handle
  obtain ⟨legs, verdict, after, course, ends, leads⟩ :=
    host.does_runMatrix config (Desk.reliable_sink takes) ⟨w, false⟩ directory
  have requires := leads.requires_lookouts
  rw [lookups_account, List.forall₂_map_left_iff] at requires
  have deeds := (deeds_account _ _ _).symm.trans (deeds_of_leads leads)
  obtain ⟨scenes, rfl, founds, occasions⟩ := exists_scenes requires deeds
  exact ⟨scenes, verdict, after, ⟨course.carriesOut, leads, founds, occasions⟩, ends⟩

/-- At a desk with an open transcript that is empty and takes all that it is given, a run leaves a
transcript and a terminal that tell of its scenes. -/
theorem Plays.outputs {w after : World π (Desk δ)} {scenes : List (caller.Scene config)}
    {verdict : Except Fault Outcome} (plays : caller.Plays config handle w scenes verdict after)
    (takes : (handle.medium caller.disk).Reliable) (holds : Desk.Holds handle [] w)
    (quiet : ∀ o ∈ scenes.flatMap Scene.occasions,
      caller.deskLauncher.Spares o handle.at_ ∧ caller.deskLauncher.SpeaksOnce o) :
    Desk.Holds handle (Text.encode (renderWith (fun _ => "") scenes verdict)) after ∧
      after.gear.terminal.taken.toList = w.gear.terminal.taken.toList
        ++ Text.encode (renderWith caller.voice scenes verdict) := by
  obtain ⟨held, taken⟩ := written_of_leads plays.leads takes holds
    fun o mem => (quiet o (plays.occasions ▸ mem)).1
  have echoes : (scenes.flatMap Scene.occasions).map caller.echo
      = (scenes.flatMap Scene.occasions).map fun o => Text.encode (caller.voice o) :=
    List.map_congr_left fun o mem => echo_eq_voice (quiet o mem).2
  -- the transcript is the terminal of children that say nothing
  have silent := weave_account (fun _ => "") scenes verdict
  rw [Text.encode_empty, weave_silent] at silent
  rw [← plays.occasions, echoes, weave_account] at taken
  rw [List.nil_append, silent] at held
  exact ⟨held, taken⟩

/-- A transcript that was just opened is empty. -/
theorem holds_of_createFile {files opened : FileSystem π} {start : Place} {path : Path}
    (opens : files.createFile start path = .ok (handle, opened)) (terminal : Terminal) (disk : δ) :
    Desk.Holds handle [] (⟨opened, ⟨terminal, handle, disk⟩⟩ : World π (Desk δ)) := by
  refine ⟨?_, fun isFile => ?_⟩
  · rw [List.length_nil, ← FileSystem.offset_createFile opens]
  · rcases FileSystem.createFile_cases opens with ⟨-, g, serial, empty, -, put, -⟩ | ⟨-, -, d, device⟩
    · exact ⟨g, put.gained, serial, empty⟩
    · cases isFile.symm.trans device

/-- The files that a caller sees in the end are those that the run has left. -/
theorem files_integrationEnding (outcome : Except Fault Outcome) (w : World π (Desk δ)) :
    (integrationEnding outcome w).files = w.files := by
  cases outcome <;> rfl

/-- The output that a caller sees in the end is what stands on the terminal. -/
theorem output_integrationEnding (outcome : Except Fault Outcome) (w : World π (Desk δ)) :
    (integrationEnding outcome w).output = w.gear.terminal.taken := by
  cases outcome <;> rfl

/-- What is printed first is all that stands on the terminal. -/
theorem taken_print (line : String) :
    (Terminal.blank.print line).taken.toList = Text.encode (line ++ "\n") := by
  simp [Terminal.print, Terminal.blank]

/-- The line that tells where a run is logged. -/
theorem logLine_newline (transcript : Path) :
    logLine transcript ++ "\n" = "CONTINUOUS_INTEGRATION_LOG[" ++ transcript.display ++ "]\n" := by
  have close : "]" ++ "\n" = "]\n" := by decide
  unfold logLine
  rw [String.append_assoc, close]

/-- The program ends as its run does. -/
theorem call_eq_integrationEnding {words : List Bytes} {files opened : FileSystem π}
    {root log : Path} {at_ : Location}
    (order : Order.read caller.environment words = .ok (.integrate root log))
    (resolved : files.canonical caller.start (caller.absolute root) = .ok at_)
    (opens : files.createFile caller.start (caller.absolute log) = .ok (handle, opened)) :
    let transcript := caller.absolute log
    let before : World π (Desk δ) :=
      ⟨opened, ⟨Terminal.blank.print (logLine transcript), handle, caller.diskBefore⟩⟩
    let run := (caller.integrationHost handle).runMatrix (.forProject at_.toPath transcript)
      ⟨before, false⟩
    caller.call words files = integrationEnding run.1 run.2.world := by
  intro transcript before run
  simp only [call, order, integrate, resolved, Desk.openAt, opens]
  rfl

/-- A caller at the root whose disk takes everything. All programs complain and leave everything as
it is. -/
def complaining : Caller Unit Unit where
  machine := ⟨fun _ _ files => (⟨[(.err, Text.encode "no\n")], [], .exited 1⟩, files)⟩
  start := .root
  environment := []
  schedule _ := .out
  disk := .boundless
  diskBefore := ()

/-- The first program of a run. -/
def tooled : FileSystem Unit :=
  (FileSystem.empty.addDirectory [Text.encode "bin"]).put [Text.encode "bin", Text.encode "cmake"]
    (.file ⟨3, [], true, some ()⟩)

/-- The same with the log of an earlier run. -/
def logged : FileSystem Unit :=
  tooled.put [Text.encode "log"] (.file ⟨4, Text.encode "earlier", false, none⟩)

/-- The same with a link in place of the log, which leads to the device that takes everything. -/
def nullLogged : FileSystem Unit :=
  ((tooled.put [Text.encode "dev"] (.directory 5)).put [Text.encode "dev", Text.encode "null"]
    (.device ⟨6, none, none⟩)).put [Text.encode "log"] (.link (.ofString "/dev/null"))

/-- The words of a call that names the log. -/
def toLog : List Bytes := [Text.encode "ci", Text.encode "--log=log"]

/-- The open log of an earlier run, and the open device. -/
def logHandle : FileSystem.Handle := ⟨[Text.encode "log"], 4, 0, none⟩

@[inherit_doc logHandle]
def nullHandle : FileSystem.Handle :=
  ⟨[Text.encode "dev", Text.encode "null"], 6, 0, some ⟨6, none, none⟩⟩

/-- Every child of this caller complains and leaves everything as it is. -/
theorem eq_of_child?_complaining {o : Occasion Unit (Desk Unit)} {behaviour : Child.Behaviour}
    {left : FileSystem Unit}
    (started : complaining.deskLauncher.child? o = .ok (behaviour, left)) :
    behaviour = ⟨[(.err, Text.encode "no\n")], [], .exited 1⟩ ∧ left = o.world.files := by
  unfold Child.Launcher.child? at started
  split at started <;> cases started
  exact ⟨rfl, rfl⟩

/-- No child of this caller touches a file or speaks twice. -/
theorem spares_complaining (o : Occasion Unit (Desk Unit)) (at_ : Location) :
    complaining.deskLauncher.Spares o at_ ∧ complaining.deskLauncher.SpeaksOnce o := by
  refine ⟨fun behaviour left started => ?_, fun behaviour left started => .inl ?_⟩
  · rw [(eq_of_child?_complaining started).2]
  · rw [(eq_of_child?_complaining started).1]
    rfl

/-- Without a project in the arguments the order is for the current directory. -/
theorem read_toLog :
    Order.read [] toLog = .ok (.integrate (.ofString ".") (.ofString "log")) :=
  ok_of_toOption (by decide +kernel)

/-- The current directory of this caller is the root, and it is found. -/
theorem canonical_logged :
    logged.canonical .root (complaining.absolute (.ofString ".")) = .ok [] :=
  ok_of_toOption (by decide +kernel)

/-- The root is found there too when the log is a device. -/
theorem canonical_nullLogged :
    nullLogged.canonical .root (complaining.absolute (.ofString ".")) = .ok [] :=
  ok_of_toOption (by decide +kernel)

/-- What was opened is known by its handle. -/
theorem exists_createFile {files : FileSystem Unit} {path : Path} {handle : FileSystem.Handle}
    (h : (files.createFile .root path).toOption.map Prod.fst = some handle) :
    ∃ opened, files.createFile .root path = .ok (handle, opened) := by
  rcases made : files.createFile .root path with cause | ⟨handle', opened⟩
  · simp [made, Except.toOption] at h
  · simp only [made, Except.toOption, Option.map_some, Option.some.injEq] at h
    exact ⟨opened, by rw [h]⟩

/-- The log is opened as a regular file. -/
theorem createFile_logged : ∃ opened,
    logged.createFile .root (complaining.absolute (.ofString "log")) = .ok (logHandle, opened) :=
  exists_createFile (by decide +kernel)

/-- Opening the device leaves all files as they were, and the handle is for the device. -/
theorem createFile_nullLogged :
    nullLogged.createFile .root (complaining.absolute (.ofString "log"))
      = .ok (nullHandle, nullLogged) := by
  obtain ⟨opened, opens⟩ : ∃ opened,
      nullLogged.createFile .root (complaining.absolute (.ofString "log"))
        = .ok (nullHandle, opened) := exists_createFile (by decide +kernel)
  rcases FileSystem.createFile_cases opens with ⟨device, -⟩ | ⟨-, same, -⟩
  · cases device
  · rw [opens, same]

/-- The disk of this caller takes everything, and so does the device. -/
theorem reliable_complaining (handle : FileSystem.Handle)
    (willing : ∀ d, handle.device? = some d → d.full? = none) :
    (handle.medium complaining.disk).Reliable :=
  FileSystem.Handle.reliable_medium Outlet.reliable_boundless willing

/-- If its transcript takes nothing, a run ends when it has shown its first line. -/
theorem exists_runMatrix_of_full {w : World π (Desk δ)} {cause : Cause}
    (full : ∀ disk bytes, (handle.medium caller.disk).write disk bytes = (.failed cause, disk))
    (directory : w.files.isDirectory caller.start config.projectRoot = true) :
    ∃ after, (caller.integrationHost handle).runMatrix config ⟨w, false⟩
        = (.error (.transcript cause), ⟨after, true⟩) ∧ after.files = w.files := by
  let line := Banner.separator.line unitTestHeading
  have nonempty : Text.encode line ≠ [] := by decide
  -- the first line of the run is shown, and cannot be written
  have refused : (Desk.transcriptOutlet (handle.medium caller.disk)).emit line
      (Desk.showing (Text.encode line) w) = (.error cause, Desk.showing (Text.encode line) w) := by
    rw [Outlet.emit_apply, Outlet.writeAll_of_ne_nil _ nonempty, Desk.write_transcriptOutlet, full]
  have headed : (caller.integrationHost handle).sink.heading unitTestHeading ⟨w, false⟩
      = (.error (.transcript cause), ⟨Desk.showing (Text.encode line) w, true⟩) := by
    show (Desk.sink (handle.medium caller.disk)).log line ⟨w, true⟩ = _
    rw [Sink.log_apply, Desk.sink, Desk.console_emit]
    simp only [refused]
  refine ⟨Desk.showing (Text.encode line) w, ?_, rfl⟩
  rw [Host.runMatrix_of_root _ _ directory]
  exact Action.bind_of_error headed _

/-- What can be read from the device after a run that is logged to it. -/
theorem read?_call_nullLogged :
    (complaining.call toLog nullLogged).files.read? .root (complaining.absolute (.ofString "log"))
      = some [] := by
  have directory : nullLogged.isDirectory .root (Location.toPath []) = true := by decide +kernel
  have takes := reliable_complaining nullHandle (by rintro _ ⟨⟩; rfl)
  let transcript := complaining.absolute (.ofString "log")
  let before : World Unit (Desk Unit) :=
    ⟨nullLogged, ⟨Terminal.blank.print (logLine transcript), nullHandle, ()⟩⟩
  obtain ⟨scenes, verdict, after, plays, ends⟩ := @exists_plays Unit Unit complaining
    (.forProject (Location.toPath []) transcript) nullHandle before takes directory
  -- neither the log nor any child changes a file
  have same : after.files = nullLogged :=
    files_of_leads plays.leads rfl fun o behaviour left started =>
      (eq_of_child?_complaining started).2
  have left : (complaining.call toLog nullLogged).files = nullLogged := by
    rw [call_eq_integrationEnding read_toLog canonical_nullLogged createFile_nullLogged,
      files_integrationEnding]
    exact (congrArg (fun run => run.2.world.files) ends).trans same
  rw [left]
  decide +kernel

/-- The same caller with a disk that is full. -/
def crowded : Caller Unit Unit :=
  { complaining with disk := Device.outlet ⟨0, none, some .deviceFull⟩ }

/-- A run on a full disk leaves a log that is empty. -/
theorem read?_call_crowded :
    (crowded.call toLog logged).files.read? .root (crowded.absolute (.ofString "log"))
      = some [] := by
  have directory : logged.isDirectory .root (Location.toPath []) = true := by decide +kernel
  obtain ⟨opened, opens⟩ := createFile_logged
  let transcript := crowded.absolute (.ofString "log")
  let before : World Unit (Desk Unit) :=
    ⟨opened, ⟨Terminal.blank.print (logLine transcript), logHandle, ()⟩⟩
  obtain ⟨after, ends, same⟩ := @exists_runMatrix_of_full Unit Unit crowded
    (.forProject (Location.toPath []) transcript) logHandle before .deviceFull (fun _ _ => rfl)
    ((FileSystem.isDirectory_createFile opens).trans directory)
  have empty : opened.read? .root transcript = some [] := by
    rcases FileSystem.createFile_cases opens with ⟨-, g, -, nothing, -, -, led⟩ | ⟨-, -, d, device⟩
    · simp only [FileSystem.read?, ← nothing]
      rw [show opened.stat .root transcript = _ from led]
    · cases device
  have seen : crowded.call toLog logged = _ :=
    @call_eq_integrationEnding Unit Unit crowded logHandle toLog logged opened (.ofString ".")
      (.ofString "log") [] read_toLog canonical_logged opens
  rw [seen, ends, files_integrationEnding]
  exact same ▸ empty

variable (caller) in
/-- What can be read from the transcript in the end is the text of a run, and the output has the
same text with the lines of the children. -/
def OutputsFit (words : List Bytes) (files : FileSystem π) (log : Path) (config : Config) : Prop :=
  let transcript := caller.absolute log
  let ending := caller.call words files
  ∃ (scenes : List (caller.Scene config)) (verdict : Except Fault Outcome) (text : Bytes),
    ending.files.read? caller.start transcript = some text ∧
    text = Text.encode (renderWith (fun _ => "") scenes verdict) ∧
    ending.output.toList = Text.encode ("CONTINUOUS_INTEGRATION_LOG[" ++ transcript.display
      ++ "]\n" ++ renderWith caller.voice scenes verdict)

/-- The text of a run is not what is read from a transcript that kept nothing. -/
theorem not_outputsFit_of_read? {words : List Bytes} {files : FileSystem π} {log : Path}
    (nothing : (caller.call words files).files.read? caller.start (caller.absolute log) = some [])
    (config : Config) : ¬caller.OutputsFit words files log config := by
  rintro ⟨scenes, verdict, text, read, told, -⟩
  have begun : Text.encode "[----------] " ≠ [] := by decide
  obtain rfl := Option.some.inj (nothing.symm.trans read)
  simp [renderWith, begun] at told

end Caller

end Orchestrator
