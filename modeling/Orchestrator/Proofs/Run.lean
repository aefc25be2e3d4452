import Orchestrator.Proofs.Moves

namespace Orchestrator

/-!
# Runs — the moves of every action of the matrix

From the lines of the log up to the whole run, each action makes the moves that are told by what it
ran. The nested loops of a run are closed here, once, for every host whose log never fails:

* `Host.does_validateAll` — commands one after another (`Carried`).
* `Host.does_runStages` — the stages of one toolchain (`Followed`).
* `Host.does_runMatrix` — the whole run: the account of a course of the plan.
-/

variable {π ω α : Type}

/-- What going through `stages` under one toolchain came to. It is told by what it leaves to the
stages planned after them: they follow if all passed, and have no say otherwise. -/
def Followed (config : Config) (t : Toolchain) (stages : List Stage) (legs : List Leg) :
    Except Fault (Option Stage) → Prop
  | .ok none => ∀ rows more verdict, Course config rows more verdict →
      Course config (stages.map (t, ·) ++ rows) (legs ++ more) verdict
  | .ok (some stage) => ∀ rows,
      Course config (stages.map (t, ·) ++ rows) legs (.ok (.failed t.id stage))
  | .error fault => ∀ rows, Course config (stages.map (t, ·) ++ rows) legs (.error fault)

/-- A stage that passed comes before the stages that follow it. -/
theorem Followed.cons {config : Config} {t : Toolchain} {stage : Stage} {rest : List Stage}
    {commands? : Option (List CommandLine)} {deeds : List Deed} {legs : List Leg}
    {out : Except Fault (Option Stage)} (h : Followed config t rest legs out)
    (ended : Leg.Ended config ⟨t, stage, commands?, deeds⟩ (.ok true)) :
    Followed config t (stage :: rest) (⟨t, stage, commands?, deeds⟩ :: legs) out := by
  match out, h with
  | .ok none, h => exact fun rows more verdict course => .passed ended (h rows more verdict course)
  | .ok (some _), h => exact fun rows => .passed ended (h rows)
  | .error _, h => exact fun rows => .passed ended (h rows)

/-- The line logged last under a toolchain, if anything did not pass. -/
def closing : Except Fault (Option Stage) → List Move
  | .ok none => []
  | _ => [.logged failureLine]

namespace Host

variable {host : Host π ω} {config : Config} (reliable : host.sink.Reliable)
include reliable

/-! ### Lines of the log -/

/-- A heading is one line, and an empty line before it if there was a heading already. -/
theorem does_heading (title : String) (s : Session (World π ω)) :
    ∃ w, host.Does config (host.sink.heading title) s
      (((if s.headed then ["\n"] else []) ++ [Banner.separator.line title]).map .logged) (.ok ())
      ⟨w, true⟩ := by
  obtain ⟨w, _ | _⟩ := s
  · exact ⟨_, reliable.log_eq (Banner.separator.line title) ⟨w, true⟩, .logged .done⟩
  · have both : host.Does config
        (do host.sink.log "\n"; host.sink.log (Banner.separator.line title)) ⟨w, true⟩ _ _ _ :=
      (does_log reliable "\n" _).bind (does_log reliable _ _)
    exact ⟨_, both.ends, both.leads⟩

/-- The result of a command is reported, and the sink remembers no more than before. -/
theorem does_result (call : Call) (result : CommandResult) (s : Session (World π ω)) :
    ∃ w, host.Does config
      (host.sink.result result.code call.command.display result.errorText) s
      ((Deed.report ⟨call, .ok result⟩).map .logged) (.ok ()) ⟨w, s.headed⟩ := by
  unfold Sink.result Deed.report
  by_cases zero : result.code = 0
  · simp only [if_pos zero]
    exact ⟨_, does_log reliable _ s⟩
  · simp only [if_neg zero]
    exact ⟨_, (does_log reliable _ s).bind <| (does_log reliable _ _).bind <|
      (does_log reliable _ _).bind <| (does_log reliable _ _).bind <| does_log reliable _ _⟩

/-! ### Commands -/

variable (config)

/-- Validating a command is announcing it, running it and reporting its result. -/
theorem does_validate (call : Call) (s : Session (World π ω)) :
    ∃ answer w, host.Does config (validate host.sink host.runner call.command call.context) s
      (Deed.moves ⟨call, answer⟩) (answer.map CommandResult.passed) ⟨w, s.headed⟩ := by
  -- a command is announced, run and, if there is a result, reported
  have announced : host.Does config (host.sink.announce call.command.display) s _ _ _ :=
    does_log reliable _ s
  have ran := does_run host config call
    ⟨host.sink.noted (Banner.run.line call.command.display) s.world, s.headed⟩
  unfold validate
  rcases answered : (host.runner.execute call.command call.context
    (host.sink.noted (Banner.run.line call.command.display) s.world)).1 with fault | result
  · simp only [answered] at ran
    exact ⟨.error fault, _, announced.bind (ran.bind_error _)⟩
  · simp only [answered] at ran
    obtain ⟨w, reported⟩ := does_result reliable call result ⟨_, s.headed⟩
    exact ⟨.ok result, w, announced.bind (ran.bind (reported.bind_pure _))⟩

/-- Commands are run up to the first that does not succeed. -/
theorem does_validateAll (ctx : Context) (commands : List CommandLine)
    (s : Session (World π ω)) :
    ∃ deeds verdict w, Carried ctx commands deeds verdict ∧
      host.Does config (validateAll host.sink host.runner ctx commands) s
        (deeds.flatMap Deed.moves) verdict ⟨w, s.headed⟩ := by
  -- the induction is on the commands; each leaves another world to those after it
  induction commands generalizing s with
  | nil => exact ⟨[], .ok true, s.world, .all, does_pure true s⟩
  | cons command rest ih =>
    obtain ⟨answer, w, first⟩ := does_validate config reliable ⟨command, ctx⟩ s
    rw [validateAll_cons]
    rcases answer with fault | result
    · refine ⟨[_], .error fault, w, .stopped, ?_⟩
      rw [List.flatMap_singleton]
      exact first.bind_error _
    · -- the exit code alone decides whether the next command is run
      by_cases zero : result.code = 0
      · obtain ⟨deeds, verdict, w', carried, more⟩ := ih ⟨w, s.headed⟩
        have passed : result.passed = true := by simp [CommandResult.passed, zero]
        refine ⟨_ :: deeds, verdict, w', .passed zero carried, ?_⟩
        exact first.bind (by rwa [passed, if_pos rfl])
      · have failed : result.passed = false := by simp [CommandResult.passed, zero]
        refine ⟨[_], .ok false, w, .failed zero, ?_⟩
        rw [List.flatMap_cons]
        refine first.bind ?_
        rw [failed, if_neg Bool.false_ne_true]
        exact does_pure false _

/-! ### Stages and toolchains -/

/-- A stage looks up its commands and carries out deeds: together they are a leg that ended as the
stage does. -/
theorem does_runStage (t : Toolchain) (stage : Stage) (s : Session (World π ω)) :
    ∃ commands? deeds verdict w, Leg.Ended config ⟨t, stage, commands?, deeds⟩ verdict ∧
      host.Does config (host.runStage config (config.contextOf t) stage) s
        (.looked stage commands? :: deeds.flatMap Deed.moves) verdict ⟨w, s.headed⟩ := by
  rcases found : host.stageCommands? config s.world.files stage with _ | commands
  · refine ⟨none, [], .ok false, s.world, ⟨rfl, rfl⟩, ?_, ?_⟩
    · simp [runStage, found]
    · rw [← found]
      exact .looked .done
  · obtain ⟨deeds, verdict, w, carried, done⟩ :=
      does_validateAll config reliable (config.contextOf t) commands s
    refine ⟨some commands, deeds, verdict, w, carried, ?_, ?_⟩
    · simp only [runStage, found]
      exact done.ends
    · rw [← found]
      exact .looked done.leads

variable {config} in
/-- A fault is followed by the failure line. -/
theorem does_orFailureLine_error {action : Logged (World π ω) α} {s s' : Session (World π ω)}
    {moves : List Move} {fault : Fault} (h : host.Does config action s moves (.error fault) s') :
    host.Does config (host.orFailureLine action) s (moves ++ [.logged failureLine])
      (.error fault) ⟨host.sink.noted failureLine s'.world, s'.headed⟩ where
  ends := by rw [orFailureLine_of_error h.ends, reliable.log_eq]
  leads := h.leads.append (.logged .done)

/-- The texts before a stage; a heading is never the first of its sink here. -/
theorem does_opening (stage : Stage) (w : World π ω) :
    ∃ w', host.Does config
      (if stage = .buildExamples then host.sink.heading exampleHeading else pure ()) ⟨w, true⟩
      (stage.opening.map .logged) (.ok ()) ⟨w', true⟩ := by
  unfold Stage.opening
  by_cases examples : stage = .buildExamples
  · simp only [if_pos examples]
    exact does_heading reliable exampleHeading ⟨w, true⟩
  · simp only [if_neg examples]
    exact ⟨w, does_pure () _⟩

/-- The stages of one toolchain are gone through up to the first that does not pass. -/
theorem does_runStages (t : Toolchain) (stages : List Stage) (w : World π ω) :
    ∃ legs out w', Followed config t stages legs out ∧
      host.Does config (host.runStages config (config.contextOf t) stages) ⟨w, true⟩
        (legs.flatMap Leg.moves ++ closing out) out ⟨w', true⟩ := by
  induction stages generalizing w with
  | nil => exact ⟨[], .ok none, w, fun _ _ _ course => course, does_pure none _⟩
  | cons stage rest ih =>
    obtain ⟨w₁, opened⟩ := does_opening config reliable stage w
    obtain ⟨commands?, deeds, verdict, w₂, ended, staged⟩ :=
      does_runStage config reliable t stage ⟨w₁, true⟩
    rw [runStages_cons]
    rcases verdict with fault | _ | _
    · -- a fault: the failure line is tried, and nothing follows
      refine ⟨[⟨t, stage, commands?, deeds⟩], .error fault, _, fun rows => .stopped ended,
        .of_eq (opened.bind ((does_orFailureLine_error reliable staged).bind_error _)) ?_⟩
      simp [Leg.moves, closing]
    · -- the stage did not pass: the failure line, and nothing follows
      refine ⟨[⟨t, stage, commands?, deeds⟩], .ok (some stage), _, fun rows => .failed ended,
        .of_eq (opened.bind ((does_orFailureLine_ok staged).bind
          ((does_log reliable failureLine _).bind_pure _))) ?_⟩
      simp [Leg.moves, closing]
    · -- the stage passed, and the others follow it
      obtain ⟨legs, out, w₃, followed, more⟩ := ih w₂
      refine ⟨⟨t, stage, commands?, deeds⟩ :: legs, out, w₃, followed.cons ended,
        .of_eq (opened.bind ((does_orFailureLine_ok staged).bind more)) ?_⟩
      simp [Leg.moves]

/-- The toolchains take the course through all their stages, and then the last line is logged. -/
theorem does_runToolchains (toolchains : List Toolchain) (w : World π ω) :
    ∃ legs outcome w',
      Course config (toolchains.flatMap fun t => Stage.all.map (t, ·)) legs outcome ∧
      host.Does config (host.runToolchains config toolchains) ⟨w, true⟩
        (legs.flatMap Leg.moves ++ [.logged (lastLine outcome)]) outcome ⟨w', true⟩ := by
  induction toolchains generalizing w with
  | nil =>
    exact ⟨[], .ok .passed, _, .finished, (does_log reliable successLine ⟨w, true⟩).bind_pure _⟩
  | cons t rest ih =>
    obtain ⟨legs, out, w₁, followed, first⟩ := does_runStages config reliable t Stage.all w
    rw [List.flatMap_cons, runToolchains]
    -- a fault or a stage that did not pass ends the run; what is planned after it has no say
    rcases out with fault | _ | stage
    · exact ⟨legs, .error fault, w₁, followed _, first.bind_error _⟩
    · obtain ⟨more, outcome, w₂, course, second⟩ := ih w₁
      refine ⟨legs ++ more, outcome, w₂, followed _ _ _ course, .of_eq (first.bind second) ?_⟩
      simp [closing]
    · refine ⟨legs, .ok (.failed t.id stage), w₁, followed _,
        .of_eq (first.bind (does_pure _ _)) ?_⟩
      simp [closing, lastLine]

/-- **Moves of a run.** A run whose project root is a directory makes exactly the moves of a course
of its plan, and ends as that course does. -/
theorem does_runMatrix (s : Session (World π ω))
    (root : s.world.files.isDirectory host.start config.projectRoot = true) :
    ∃ legs outcome w, Course config config.plan legs outcome ∧
      host.Does config (host.runMatrix config) s (account s.headed legs outcome) outcome
        ⟨w, true⟩ := by
  obtain ⟨w₁, headed⟩ := does_heading reliable unitTestHeading s
  obtain ⟨legs, outcome, w₂, course, rest⟩ :=
    does_runToolchains config reliable config.toolchains w₁
  -- the heading comes first, and its moves open the account
  have whole : host.Does config
      (do host.sink.heading unitTestHeading; host.runToolchains config config.toolchains) s _ _ _ :=
    headed.bind rest
  refine ⟨legs, outcome, w₂, course, ?_, ?_⟩
  · rw [runMatrix_of_root host config root]
    exact whole.ends
  · simpa [account, overture] using whole.leads

end Host

end Orchestrator
