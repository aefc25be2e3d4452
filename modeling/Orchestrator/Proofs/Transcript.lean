import Orchestrator.Proofs.Trace

namespace Orchestrator

/-!
# Transcripts — the log of a run as a rendering of its trace

The text of a log is written piece by piece, in the middle of loops that end in many ways. It is one
text all the same, and it can be told from the trace of the run.

* `render` — the text that a run adds to the log.
* `CarriesOut.examples_iff` — where the headings of the example stages stand.
* `Bench.Headed` — a sink knows whether a heading was logged on it before, run after run.
* `Bench.runMatrix_renders_trace` — whatever runs were made on a sink, the next one adds its
  rendering, and the same on console and transcript.
-/

variable {π γ τ ρ : Type}

/-! ### Rendering -/

/-- The line that tells that a command is run. -/
def Deed.announced (deed : Deed) : String := "[ RUN      ] " ++ deed.call.command.display ++ "\n"

/-- The lines that tell how it ended; none if the runner ended with a fault. -/
def Deed.outcome (deed : Deed) : String :=
  let command := deed.call.command.display
  match deed.answer with
  | .ok result =>
    if result.code = 0 then "[       OK ] " ++ command ++ "\n"
    else "[----------] \n" ++ "[  STDERR  ] \n" ++ result.errorText ++ "[  FAILED  ] " ++ command
      ++ "\n" ++ "    ErrorCode: " ++ toString result.code ++ "\n"
  | .error _ => ""

/-- The text about a command. -/
def Deed.text (deed : Deed) : String := deed.announced ++ deed.outcome

/-- The text that begins a stage. The example stages of a toolchain come under a heading of their
own. -/
def Stage.heading (stage : Stage) : String :=
  if stage = .buildExamples then "\n[----------] " ++ exampleHeading ++ "\n" else ""

/-- The text about a stage. -/
def Leg.text (leg : Leg) : String :=
  leg.stage.heading ++ String.join (leg.deeds.map Deed.text)

/-- The text about a run; `again` tells whether a heading was logged on the same sink before. -/
def render (again : Bool) (legs : List Leg) (verdict : Except Fault Outcome) : String :=
  (if again then "\n" else "") ++ "[----------] " ++ unitTestHeading ++ "\n"
    ++ String.join (legs.map Leg.text) ++ lastLine verdict

/-- The lines that are logged about the end of a command are its outcome. -/
theorem Deed.join_report (deed : Deed) : String.join deed.report = deed.outcome := by
  obtain ⟨call, fault | result⟩ := deed
  · rfl
  · by_cases zero : result.code = 0
    · simp [Deed.report, Deed.outcome, zero, Banner.line, Banner.text]
    · have separator : Banner.separator.line "" = "[----------] \n" := by decide
      have stderr : Banner.stderr.line "" = "[  STDERR  ] \n" := by decide
      simp only [Deed.report, Deed.outcome, if_neg zero, String.join_cons, separator, stderr]
      simp only [Banner.line, Banner.text, Sink.codeLine, String.append_assoc, String.join_nil,
        String.append_empty]

/-- The texts that open a stage are its heading. -/
theorem Stage.join_opening (stage : Stage) : String.join stage.opening = stage.heading := by
  cases stage <;> decide

/-- The texts that open a run are the heading of its first part. -/
theorem join_overture (again : Bool) : String.join (overture again)
    = (if again then "\n" else "") ++ "[----------] " ++ unitTestHeading ++ "\n" := by
  cases again <;> decide

/-- The bytes of a text that is joined from others are theirs, one after another. -/
theorem Text.encode_join (texts : List String) :
    encode (String.join texts) = texts.flatMap encode := by
  induction texts with
  | nil => rfl
  | cons text rest ih => rw [String.join_cons, encode_append, ih, List.flatMap_cons]

namespace Move

/-- Texts that are logged one after another write what they are joined to. -/
theorem bytes_logged (texts : List String) :
    (texts.map Move.logged).flatMap bytes = Text.encode (String.join texts) := by
  rw [Text.encode_join, List.flatMap_map]
  rfl

/-- The moves of a command write its text. -/
theorem bytes_deed (deed : Deed) : deed.moves.flatMap bytes = Text.encode deed.text := by
  have announced : bytes (.logged (Banner.run.line deed.call.command.display))
      = Text.encode deed.announced := rfl
  rw [Deed.moves, List.flatMap_cons, List.flatMap_cons, announced, bytes_logged, Deed.join_report,
    Deed.text, Text.encode_append]
  rfl

example : Deed.text ⟨⟨⟨"make", ["clean"]⟩, ⟨none, []⟩⟩, .ok ⟨2, "boom\n"⟩⟩
    = "[ RUN      ] make clean\n[----------] \n[  STDERR  ] \nboom\n[  FAILED  ] make clean\n"
      ++ "    ErrorCode: 2\n" := by decide

/-- The moves of a leg write its text. -/
theorem bytes_leg (leg : Leg) : leg.moves.flatMap bytes = Text.encode leg.text := by
  have opened : (leg.stage.opening.map Move.logged).flatMap bytes
      = Text.encode leg.stage.heading := by
    rw [bytes_logged, Stage.join_opening]
  have deeds : (leg.deeds.flatMap Deed.moves).flatMap bytes
      = Text.encode (String.join (leg.deeds.map Deed.text)) := by
    simp only [Text.encode_join, List.flatMap_map, List.flatMap_assoc, bytes_deed]
  rw [Leg.moves, List.flatMap_append, opened, List.flatMap_cons, deeds, Leg.text,
    Text.encode_append]
  rfl

/-- The moves of a run write its rendering. -/
theorem bytes_account (again : Bool) (legs : List Leg) (verdict : Except Fault Outcome) :
    (account again legs verdict).flatMap bytes = Text.encode (render again legs verdict) := by
  have begun : ((overture again).map Move.logged).flatMap bytes = Text.encode
      ((if again then "\n" else "") ++ "[----------] " ++ unitTestHeading ++ "\n") := by
    rw [bytes_logged, join_overture]
  have all : (legs.flatMap Leg.moves).flatMap bytes
      = Text.encode (String.join (legs.map Leg.text)) := by
    simp only [Text.encode_join, List.flatMap_map, List.flatMap_assoc, bytes_leg]
  rw [account, List.flatMap_append, List.flatMap_append, begun, all, ← Text.encode_append,
    List.flatMap_singleton]
  exact (Text.encode_append _ _).symm

end Move

/-! ### Where the headings stand -/

/-- The minimal unit tests of a toolchain are followed by its example stages. -/
theorem Config.examples_of_plan {config : Config} {t : Toolchain}
    {before after : List (Toolchain × Stage)}
    (split : config.plan = before ++ (t, .minimalUnitTests) :: after) :
    ∃ rest, after = (t, .buildExamples) :: rest := by
  unfold Config.plan at split
  generalize config.toolchains = toolchains at split
  induction toolchains generalizing before with
  | nil => simp at split
  | cons first rest ih =>
    simp only [List.flatMap_cons, List.cons_append, List.nil_append] at split
    -- the second of the four rows under `first` is the only one that can be meant
    match before, split with
    | [], split => simp at split
    | [_], split =>
      simp only [List.cons_append, List.nil_append, List.cons.injEq, Prod.mk.injEq] at split
      obtain ⟨-, ⟨rfl, -⟩, rfl⟩ := split
      exact ⟨_, rfl⟩
    | [_, _], split => simp at split
    | [_, _, _], split => simp at split
    | _ :: _ :: _ :: _ :: before, split =>
      simp only [List.cons_append, List.cons.injEq] at split
      exact ih split.2.2.2.2

namespace CarriesOut

variable {config : Config} {legs earlier later : List Leg} {leg : Leg}
  {verdict : Except Fault Outcome}

/-- If every stage that was begun passed, the whole plan was carried out. -/
theorem rows_eq_of_passed (h : CarriesOut config legs verdict)
    (passed : ∀ leg ∈ legs, leg.Passed config) : legs.map Leg.row = config.plan := by
  -- any other verdict would name a leg that did not pass
  rcases verdict with fault | _ | ⟨compiler, stage⟩
  · obtain ⟨leg, mem, deed, mem', stopped⟩ := (h.stopped_iff fault).1 rfl
    obtain ⟨result, ok, -⟩ := (passed leg mem).2.2 deed mem'
    simp [stopped] at ok
  · exact (h.passed_iff.1 rfl).1
  · obtain ⟨leg, mem, failed, -⟩ := (h.failed_iff compiler stage).1 rfl
    obtain ⟨found, -, all⟩ := passed leg mem
    rcases failed with none | ⟨deed, mem', result, ok, nonzero⟩
    · simp [none] at found
    · obtain ⟨result', ok', zero⟩ := all deed mem'
      obtain rfl := Except.ok.inj (ok.symm.trans ok')
      exact absurd zero nonzero

/-- The example stages of a toolchain are begun just if its minimal unit tests passed. -/
theorem examples_iff (h : CarriesOut config legs verdict) (split : legs = earlier ++ leg :: later)
    (minimal : leg.stage = .minimalUnitTests) :
    leg.Passed config ↔
      ∃ next rest, later = next :: rest ∧ next.row = (leg.toolchain, .buildExamples) := by
  subst split
  have row : leg.row = (leg.toolchain, .minimalUnitTests) := by rw [Leg.row, minimal]
  obtain ⟨unbegun, plan⟩ := h.rows
  rw [List.map_append, List.map_cons, row, List.append_assoc, List.cons_append] at plan
  obtain ⟨rest, next⟩ := Config.examples_of_plan plan.symm
  cases later with
  | nil =>
    refine ⟨fun passed => ?_, by simp⟩
    -- it was the last to be begun although it passed, so that the plan would be at its end
    have whole := h.rows_eq_of_passed fun other mem => by
      rcases List.mem_append.1 mem with mem | mem
      · exact h.stages other (by simpa using mem)
      · rwa [List.mem_singleton.1 mem]
    rw [List.map_append, List.map_singleton, row, ← plan, next] at whole
    simp at whole
  | cons following more =>
    refine ⟨fun _ => ⟨following, more, rfl, ?_⟩, fun _ => h.stages leg ?_⟩
    · rw [List.map_cons, List.cons_append] at next
      exact (List.cons.inj next).1
    · rw [List.dropLast_append_of_ne_nil (by simp), List.dropLast_cons_of_ne_nil (by simp)]
      simp

end CarriesOut

/-! ### Runs on one sink -/

/-- A run that is to be made: a project, and the runner that its commands are given to. -/
structure Task (π ρ : Type) where
  config : Config
  respond : Responder π ρ

namespace Bench

variable {console : Outlet γ} {transcript : Outlet τ}

/-- Make runs one after another on one sink, whatever comes of each. -/
def runAll (start : Place) (console : Outlet γ) (transcript : Outlet τ) (tasks : List (Task π ρ))
    (s : Session (World π (Bench γ τ ρ))) : Session (World π (Bench γ τ ρ)) :=
  tasks.foldl
    (fun s task => ((host start console transcript task.respond).runMatrix task.config s).2) s

/-- The sink knows whether a heading was logged: nothing was logged before the first. -/
structure Headed (s : Session (World π (Bench γ τ ρ))) : Prop where
  nothing : s.headed = false → s.world.gear.transcript.taken.toList = []
  heading : s.headed = true →
    Text.encode Banner.separator.text <:+: s.world.gear.transcript.taken.toList

/-- Nothing is logged on a fresh sink. -/
theorem headed_new (files : FileSystem π) (c : γ) (t : τ) (r : ρ) :
    Headed ⟨⟨files, .new c t r⟩, false⟩ where
  nothing _ := rfl
  heading h := by cases h

/-- Whether a heading was logged can be read off the transcript. -/
theorem Headed.headed_iff {s : Session (World π (Bench γ τ ρ))} (h : Headed s) :
    s.headed = true ↔
      Text.encode Banner.separator.text <:+: s.world.gear.transcript.taken.toList := by
  refine ⟨h.heading, fun found => ?_⟩
  rcases headed : s.headed with _ | _
  · rw [h.nothing headed, List.infix_nil] at found
    exact absurd found (by decide)
  · rfl

/-- Every rendering begins with a heading. -/
theorem separator_infix_render (again : Bool) (legs : List Leg) (verdict : Except Fault Outcome) :
    Text.encode Banner.separator.text <:+: Text.encode (render again legs verdict) := by
  let rest := unitTestHeading ++ "\n" ++ String.join (legs.map Leg.text) ++ lastLine verdict
  refine ⟨Text.encode (if again then "\n" else ""), Text.encode rest, ?_⟩
  simp [rest, render, Banner.text]

/-- A run that logs nothing leaves the sink without a heading; every other one logs a heading. -/
theorem Headed.runMatrix (takes : console.Reliable) (takes' : transcript.Reliable) (start : Place)
    (respond : Responder π ρ) (config : Config) {s : Session (World π (Bench γ τ ρ))}
    (h : Headed s) : Headed ((host start console transcript respond).runMatrix config s).2 := by
  -- a run that has a root logs a heading; one that has none leaves the sink as it is
  by_cases root : s.world.files.isDirectory start config.projectRoot = true
  · obtain ⟨legs, -, grown, headed⟩ := runMatrix_traces takes takes' start respond config s root
    refine ⟨fun unheaded => ?_, fun _ => ?_⟩
    · rw [headed] at unheaded
      cases unheaded
    · rw [grown.transcript, Move.bytes_account]
      exact (separator_infix_render _ _ _).trans (List.suffix_append _ _).isInfix
  · rw [Host.runMatrix_of_not_root _ config root]
    exact h

/-- After any number of runs the sink knows whether a heading was logged. -/
theorem Headed.runAll (takes : console.Reliable) (takes' : transcript.Reliable) (start : Place)
    (tasks : List (Task π ρ)) {s : Session (World π (Bench γ τ ρ))} (h : Headed s) :
    Headed (runAll start console transcript tasks s) := by
  induction tasks generalizing s with
  | nil => exact h
  | cons task rest ih => exact ih (h.runMatrix takes takes' start task.respond task.config)

/-- **A transcript renders the trace.** On a fresh sink with devices that do not fail, after any
runs, the next run in a project whose root is a directory adds the same text to console and
transcript: the rendering of its trace. It is kept apart by an empty line from what is there if a
heading is, and the example stages of a toolchain have their heading just after its minimal unit
tests passed. -/
theorem runMatrix_renders_trace (takes : console.Reliable) (takes' : transcript.Reliable)
    (start : Place) (files : FileSystem π) (c : γ) (t : τ) (r : ρ) (tasks : List (Task π ρ))
    (respond : Responder π ρ) (config : Config)
    (root : (runAll start console transcript tasks
      ⟨⟨files, .new c t r⟩, false⟩).world.files.isDirectory start config.projectRoot = true) :
    let s := runAll start console transcript tasks ⟨⟨files, .new c t r⟩, false⟩
    let host := host start console transcript respond
    let run := host.runMatrix config s
    ∃ (legs : List Leg) (again : Bool),
      respond.Traces start config (s.world.gear.runner, s.world.files) legs run.1 ∧
      run.2.world.gear.calls.toList = s.world.gear.calls.toList ++ legs.flatMap Leg.calls ∧
      (again = true ↔
        Text.encode "[----------] " <:+: s.world.gear.transcript.taken.toList) ∧
      (∀ earlier leg later, legs = earlier ++ leg :: later → leg.stage = .minimalUnitTests →
        (leg.Passed config ↔ ∃ next rest,
          later = next :: rest ∧ next.row = (leg.toolchain, .buildExamples))) ∧
      run.2.world.gear.console.taken.toList
        = s.world.gear.console.taken.toList ++ Text.encode (render again legs run.1) ∧
      run.2.world.gear.transcript.taken.toList
        = s.world.gear.transcript.taken.toList ++ Text.encode (render again legs run.1) := by
  intro s host run
  have known : Headed s := (headed_new files c t r).runAll takes takes' start tasks
  obtain ⟨legs, traces, grown, -⟩ := runMatrix_traces takes takes' start respond config s root
  rw [Move.bytes_account] at grown
  refine ⟨legs, s.headed, traces, grown.calls, known.headed_iff, ?_, grown.console,
    grown.transcript⟩
  intro earlier leg later split minimal
  exact traces.examples_iff split minimal

theorem runMatrix_renders_trace_rootProject :
    let s := runAll .root Outlet.boundless Outlet.boundless [⟨rootProject, thirdFails⟩] untouched
    let run := (host .root Outlet.boundless Outlet.boundless thirdFails).runMatrix rootProject s
    s.world.files.isDirectory .root rootProject.projectRoot = true ∧
    Outlet.boundless.Reliable ∧
    ∃ legs : List Leg,
      thirdFails.Traces .root rootProject (s.world.gear.runner, s.world.files) legs run.1 ∧
      run.2.world.gear.calls.toList = s.world.gear.calls.toList ++ legs.flatMap Leg.calls ∧
      run.2.world.gear.console.taken.toList
        = s.world.gear.console.taken.toList ++ Text.encode (render true legs run.1) ∧
      run.2.world.gear.transcript.taken.toList
        = s.world.gear.transcript.taken.toList ++ Text.encode (render true legs run.1) := by
  intro s run
  have root : untouched.world.files.isDirectory .root rootProject.projectRoot = true := by decide
  obtain ⟨_, -, first, -⟩ := runMatrix_traces Outlet.reliable_boundless
    Outlet.reliable_boundless .root thirdFails rootProject untouched root
  have files : s.world.files = untouched.world.files :=
    (congrArg Prod.snd first.left).trans (after_thirdFails _ _)
  have root' : s.world.files.isDirectory .root rootProject.projectRoot = true := by rwa [files]
  -- the first run has logged a heading, so that the second one keeps apart from it
  have before : Text.encode "[----------] " <:+: s.world.gear.transcript.taken.toList := by
    have taken : s.world.gear.transcript.taken.toList = _ := first.transcript
    rw [taken, Move.bytes_account]
    exact separator_infix_render _ _ _
  obtain ⟨legs, again, traces, calls, heading, -, shown, written⟩ := runMatrix_renders_trace
    Outlet.reliable_boundless Outlet.reliable_boundless .root .empty () () 0
    [⟨rootProject, thirdFails⟩] thirdFails rootProject root'
  obtain rfl := heading.2 before
  exact ⟨root', Outlet.reliable_boundless, legs, traces, calls, shown, written⟩

end Bench

end Orchestrator
