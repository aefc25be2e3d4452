import Orchestrator.Proofs.Boost.Products

namespace Orchestrator.Boost

/-!
# Moments — a build, one act after another

A build is a loop over steps, and each step is a few acts: it makes all ready for its command, it
has the command run, and it looks at what came of that. Whatever is said about what happens *during*
a build is said about the moments between these acts.

* `Workshop.rest` — the steps from a given one on, act by act; it is what `Workshop.runFrom` does
  (`Workshop.runFrom_eq_rest`).
* `Workshop.prepare_cases`, `Workshop.conclude_cases` — what a step does before its command is run,
  and what it leaves.
* `Moment` — a point between two acts of a build.
* `Workshop.Comes` — the build comes to a moment, and that is the world it leaves there.
* `Workshop.Ends` — a build that has come to a moment ends there.
* `Workshop.ensureBuilt_eq_iff` — a build ends in some way just if it comes to a moment at which it
  does.
-/

/-! ### Acts -/

/-- The command of a step, word by word, and where it runs; it is given no variables. -/
def call (request : Request) (layout : Layout) : (step : Step) → step ≠ .done → Call
  | .download, _ => ⟨⟨"wget", [request.url]⟩, ⟨some layout.root, []⟩⟩
  | .extract, _ =>
    ⟨⟨"tar", ["-xzvf", layout.tarball.display, "-C", layout.parentDir.display]⟩,
      ⟨some layout.root, []⟩⟩
  | .bootstrap, _ => ⟨⟨layout.bootstrap.display, []⟩, ⟨some layout.extractDir, []⟩⟩
  | .build, _ =>
    ⟨⟨layout.b2.display, ["--with-context", "--with-coroutine", "--with-thread"]⟩,
      ⟨some layout.extractDir, []⟩⟩

/-- How a build stops if the command of a step does not succeed. -/
def Step.refusal : (step : Step) → step ≠ .done → Failure
  | download, _ => .downloadFailed
  | extract, _ => .extractFailed
  | bootstrap, _ => .bootstrapFailed
  | build, _ => .buildFailed

/-- A step failed before its command was run. -/
def Failure.isUnready : Failure → Bool
  | createDir _ _ | bootstrapScriptMissing => true
  | _ => false

/-- The command of a step did not succeed. -/
def Failure.isRefusal : Failure → Bool
  | downloadFailed | extractFailed | bootstrapFailed | buildFailed => true
  | _ => false

/-- The command of a step succeeded, and its product is not there. -/
def Failure.isLack : Failure → Bool
  | tarballMissing | directoryMissing | b2Missing | markerFailed _ _ => true
  | _ => false

/-- The step that a failure is a failure of; a runner may fail at every step. -/
def Failure.step? : Failure → Option Step
  | downloadFailed | tarballMissing => some .download
  | createDir _ _ | extractFailed | directoryMissing => some .extract
  | bootstrapScriptMissing | bootstrapFailed | b2Missing => some .bootstrap
  | buildFailed | markerFailed _ _ => some .build
  | runner _ => none

/-- The failure that a step ends with when its command fails says that a command failed. -/
theorem Step.isRefusal_refusal (step : Step) (unfinished : step ≠ .done) :
    (step.refusal unfinished).isRefusal = true := by
  cases step <;> first | rfl | contradiction

/-- The failure of a command tells the step that it was run for. -/
@[simp] theorem Step.step?_refusal (step : Step) (unfinished : step ≠ .done) :
    (step.refusal unfinished).step? = some step := by
  cases step <;> first | rfl | contradiction

/-- The lines printed before the first step. -/
def opening (layout : Layout) : Step → List String
  | .done => []
  | .download | .extract =>
    ["boost root:" ++ layout.extractDir.display, "boost tarball:" ++ layout.tarball.display]
  | .bootstrap | .build => ["boost root:" ++ layout.extractDir.display]

/-- The line about the build tool, before the first step that works with it; `told` if it was
printed before. -/
def announcement (layout : Layout) (told : Bool) (step : Step) : List String :=
  if (step == .bootstrap || step == .build) && !told then ["b2:" ++ layout.b2.display] else []

/-- The line that a step prints itself, before it looks at anything. -/
def notice (layout : Layout) : Step → List String
  | .bootstrap => ["bootstrap:" ++ layout.bootstrap.display]
  | _ => []

/-- The lines about a step, all printed before its command is run. -/
def tidings (layout : Layout) (told : Bool) (step : Step) : List String :=
  announcement layout told step ++ notice layout step

namespace Workshop

variable {π ω : Type} (shop : Workshop π ω) (request : Request) (layout : Layout)

/-- Print lines in order. -/
def printAll (lines : List String) (w : World π ω) : World π ω :=
  lines.foldl (fun w line => shop.print line w) w

/-- Make all ready for the command of a step. -/
def ready : Step → Task π ω Unit
  | .extract => shop.makeParentDir layout
  | .bootstrap => do
    shop.say ("bootstrap:" ++ layout.bootstrap.display)
    demand (·.isFile shop.start layout.bootstrap) .bootstrapScriptMissing
  | _ => pure ()

/-- What a step does before its command is run. -/
def prepare (told : Bool) (step : Step) : Task π ω Unit := fun w =>
  shop.ready layout step (shop.printAll (announcement layout told step) w)

/-- Have a command run. -/
def answer (call : Call) : Action (World π ω) Fault CommandResult :=
  shop.runner.execute call.command call.context

/-- A command has to be run, and has to succeed. -/
def judge (failure : Failure) : Except Fault CommandResult → Task π ω Unit
  | .error fault => Action.fail (.runner fault)
  | .ok result => if result.passed then pure () else Action.fail failure

/-- Look at what the command of a step left, and go on to the next step. -/
def conclude : (step : Step) → step ≠ .done → Task π ω (Later step)
  | .download, _ => do
    demand (·.isFile shop.start layout.tarball) .tarballMissing
    pure ⟨.extract, Step.extract_behind_download⟩
  | .extract, _ => do
    demand (·.isDirectory shop.start layout.extractDir) .directoryMissing
    if ← shop.hasB2 layout then pure ⟨.build, Step.build_behind_extract⟩
    else pure ⟨.bootstrap, Step.bootstrap_behind_extract⟩
  | .bootstrap, _ => do
    demand (·.isFile shop.start layout.b2) .b2Missing
    pure ⟨.build, Step.build_behind_bootstrap⟩
  | .build, _ => do
    shop.makeMarker layout
    pure ⟨.done, Step.done_behind_build⟩

/-- What a step does once its command was run. -/
def finish (step : Step) (unfinished : step ≠ .done) (answered : Except Fault CommandResult) :
    Task π ω (Later step) := do
  judge (step.refusal unfinished) answered
  shop.conclude layout step unfinished

/-- What a step does once all is ready for its command. -/
def work (step : Step) (unfinished : step ≠ .done) : Task π ω (Later step) := fun w =>
  let answered := shop.answer (call request layout step unfinished) w
  shop.finish layout step unfinished answered.1 answered.2

/-- Perform the steps from a given one on, after those `performed`. The line about the build tool
was printed if making it is among these. -/
def rest (performed : List Step) (step : Step) : Task π ω Report :=
  if isDone : step = .done then pure ⟨performed⟩
  else do
    shop.prepare layout (performed.contains .bootstrap) step
    let next ← shop.work request layout step isDone
    rest (performed ++ [step]) next.val
termination_by step.remaining
decreasing_by exact next.property

/-! ### A build does these acts -/

/-- A build that is done has nothing left to do. -/
theorem rest_done (performed : List Step) :
    shop.rest request layout performed .done = pure ⟨performed⟩ := by
  rw [rest, dif_pos rfl]

/-- What is left to do is the next step, and then what is left after it. -/
theorem rest_of_ne_done (performed : List Step) {step : Step} (unfinished : step ≠ .done) :
    shop.rest request layout performed step = (do
      shop.prepare layout (performed.contains .bootstrap) step
      let next ← shop.work request layout step unfinished
      shop.rest request layout (performed ++ [step]) next.val) := by
  rw [rest, dif_neg unfinished]

/-- The lines about the build tool are printed once, at the first step that needs it. -/
theorem announceB2_apply (told : Bool) (step : Step) (w : World π ω) :
    shop.announceB2 layout told step w =
      (.ok (told || step == .bootstrap || step == .build),
        shop.printAll (announcement layout told step) w) := by
  cases step <;> cases told <;> rfl

/-- Running the command of a step and concluding it is its work. -/
theorem command_work (step : Step) (unfinished : step ≠ .done) (line : CommandLine) (dir : Path)
    (isCall : call request layout step unfinished = ⟨line, .inDir dir⟩) :
    (do
      shop.command line dir (step.refusal unfinished)
      shop.conclude layout step unfinished) = shop.work request layout step unfinished := by
  funext w
  unfold command work answer finish
  rw [isCall, Action.bind_apply, Action.bind_apply, Action.bind_apply, Action.mapError]
  rcases shop.runner.execute line (.inDir dir) w with ⟨fault | result, after⟩ <;> rfl

/-- A step is made ready for, and does its work. -/
theorem perform_eq (step : Step) (unfinished : step ≠ .done) :
    shop.perform request layout step unfinished = (do
      shop.ready layout step
      shop.work request layout step unfinished) := by
  cases step with
  | download => rw [← shop.command_work request layout .download unfinished _ _ rfl]; rfl
  | extract => rw [← shop.command_work request layout .extract unfinished _ _ rfl]; rfl
  | bootstrap =>
    rw [← shop.command_work request layout .bootstrap unfinished _ _ rfl, ready, bind_assoc]
    rfl
  | build => rw [← shop.command_work request layout .build unfinished _ _ rfl]; rfl
  | done => exact absurd rfl unfinished

/-- The loop over the steps does the acts of each. It knows as well whether the line about the build
tool was printed. -/
theorem runFrom_eq_rest (bound : Nat) (told : Bool) (performed : List Step) (step : Step)
    (enough : step.remaining ≤ bound)
    (known : step ≠ .done → told = performed.contains .bootstrap) :
    shop.runFrom request layout bound told performed step enough =
      shop.rest request layout performed step := by
  induction bound generalizing told performed step with
  | zero =>
    obtain rfl := Step.remaining_eq_zero_iff.1 (Nat.le_zero.1 enough)
    rw [rest_done, runFrom]
  | succ bound ih =>
    by_cases isDone : step = .done
    · subst isDone
      rw [rest_done, runFrom, dif_pos rfl]
    obtain rfl := known isDone
    have onward (next : Later step) : shop.runFrom request layout bound
        (performed.contains .bootstrap || step == .bootstrap || step == .build)
        (performed ++ [step]) next.val (by have := next.property; omega) =
          shop.rest request layout (performed ++ [step]) next.val := by
      refine ih _ _ _ _ fun more => ?_
      -- the step was not the last, so that it made the tool if it told about it
      have : (step == .build) = false := by
        refine beq_false_of_ne ?_
        rintro rfl
        exact more (Step.remaining_eq_zero_iff.1 (Nat.lt_one_iff.1 next.property))
      simp [this, Bool.beq_eq_decide_eq, eq_comm]
    rw [rest_of_ne_done _ _ _ _ isDone, runFrom, dif_neg isDone, perform_eq]
    simp only [← onward]
    funext w
    rw [Action.bind_of_ok (shop.announceB2_apply layout _ step w), bind_assoc]
    rfl

end Workshop

/-! ### What a step does and leaves -/

namespace Workshop

variable {π ω : Type} {shop : Workshop π ω} {layout : Layout} {step : Step}
  {unfinished : step ≠ .done} {next : Later step} {failure : Failure} {w w' : World π ω}

/-- What follows a demand is done if it is met; else the build ends there. -/
theorem demand_bind {α : Type} (test : FileSystem π → Bool) (failure : Failure)
    (more : Task π ω α) (w : World π ω) :
    (do demand test failure; more) w = if test w.files then more w else (.error failure, w) := by
  rw [Action.bind_apply, demand]
  by_cases passes : test w.files = true <;> simp [passes]

/-- To print a line never fails. -/
theorem say_bind {α : Type} (line : String) (more : Task π ω α) (w : World π ω) :
    (do shop.say line; more) w = more (shop.print line w) := rfl

/-- To look for the build tool changes nothing. -/
theorem hasB2_apply (w : World π ω) :
    shop.hasB2 layout w = (.ok (w.files.isFile shop.start layout.b2), w) := rfl

/-- A fault of the runner ends the build as it is. -/
theorem finish_of_fault (fault : Fault) (w : World π ω) :
    shop.finish layout step unfinished (.error fault) w = (.error (.runner fault), w) := rfl

/-- A command that failed ends the build with the failure of its step. -/
theorem finish_of_failed {result : CommandResult} (failed : result.passed = false)
    (w : World π ω) : shop.finish layout step unfinished (.ok result) w =
      (.error (step.refusal unfinished), w) := by
  simp [finish, judge, failed, Action.bind_apply]

/-- A command that succeeded does not conclude its step yet: its artifact has to be there. -/
theorem finish_of_passed {result : CommandResult} (passed : result.passed = true) :
    shop.finish layout step unfinished (.ok result) = shop.conclude layout step unfinished := by
  rw [finish, judge, if_pos passed, pure_bind]

/-- Lines and then other lines are printed like all of them in a row. -/
theorem printAll_append (first second : List String) (w : World π ω) :
    shop.printAll (first ++ second) w = shop.printAll second (shop.printAll first w) :=
  List.foldl_append

/-- **What getting ready does.** The lines about the step are printed, and only where something is
extracted the files change. If not all is ready then, the step stops for a reason of its own. -/
theorem prepare_cases {told : Bool} {out : Except Failure Unit}
    (h : shop.prepare layout told step w = (out, w')) :
    (w'.gear = (shop.printAll (tidings layout told step) w).gear ∧
      (step ≠ .extract → w' = shop.printAll (tidings layout told step) w)) ∧
    ∀ failure, out = .error failure → failure.isUnready = true ∧ failure.step? = some step := by
  rw [tidings, printAll_append]
  unfold prepare at h
  -- two steps can fail before their command: one makes a directory, and one looks for its script
  cases step with
  | extract =>
    rw [ready, makeParentDir] at h
    split at h
    all_goals
      cases h
      refine ⟨⟨rfl, fun other => absurd rfl other⟩, ?_⟩
      rintro _ ⟨⟩
    exact ⟨rfl, rfl⟩
  | bootstrap =>
    rw [ready, say_bind, demand] at h
    split at h
    all_goals
      cases h
      refine ⟨⟨rfl, fun _ => rfl⟩, ?_⟩
      rintro _ ⟨⟩
    exact ⟨rfl, rfl⟩
  | download | build | done =>
    cases h
    exact ⟨⟨rfl, fun _ => rfl⟩, nofun⟩

/-- The marker is made, or it cannot be. -/
theorem conclude_build (unfinished : Step.build ≠ .done) (w : World π ω) :
    shop.conclude layout .build unfinished w =
      match w.files.createFile shop.start layout.marker with
      | .ok (_, files) => (.ok ⟨.done, by decide⟩, { w with files := files })
      | .error cause => (.error (.markerFailed layout.marker cause), w) := by
  rw [conclude, Action.bind_apply, makeMarker]
  rcases w.files.createFile shop.start layout.marker with cause | ⟨handle, files⟩ <;> rfl

/-- **What a step leaves.** Once its command has succeeded, a step comes to its end if its product
is there, or a device in place of the marker, and the loop goes on; it changes nothing itself but
for the marker. Else it stops for a reason of its own and changes nothing. -/
theorem conclude_cases {out : Except Failure (Later step)}
    (h : shop.conclude layout step unfinished w = (out, w')) :
    (∃ next, out = .ok next ∧ next.val = step.next w'.files shop.start layout ∧
      step.Settled w'.files shop.start layout ∧ w'.gear = w.gear ∧
      (step ≠ .build → w' = w)) ∨
    ∃ failure, out = .error failure ∧ failure.isLack = true ∧ failure.step? = some step ∧
      w' = w := by
  cases step with
  | done => exact absurd rfl unfinished
  | download | bootstrap =>
    rw [conclude, demand_bind] at h
    split at h
    · next there =>
      cases h
      exact .inl ⟨_, rfl, rfl, .inl there, rfl, fun _ => rfl⟩
    · cases h
      exact .inr ⟨_, rfl, rfl, rfl, rfl⟩
  | extract =>
    rw [conclude, demand_bind, Action.bind_of_ok (hasB2_apply w)] at h
    split at h
    · next there =>
      split at h
      all_goals
        next tool =>
        cases h
        exact .inl ⟨_, rfl, by simp [Step.next, tool], .inl there, rfl, fun _ => rfl⟩
    · cases h
      exact .inr ⟨_, rfl, rfl, rfl, rfl⟩
  | build =>
    rw [conclude_build] at h
    split at h
    · next handle files made =>
      cases h
      refine .inl ⟨_, rfl, rfl, ?_, rfl, fun other => absurd rfl other⟩
      -- a regular file was made, or a device took the marker
      obtain ⟨-, g, -, -, -, -, found⟩ | ⟨device, same, -⟩ := FileSystem.createFile_cases made
      · exact .inl (by simp [Step.hasProduct, FileSystem.isFile, found])
      · exact .inr ⟨rfl, same ▸ device⟩
    · cases h
      exact .inr ⟨_, rfl, rfl, rfl, rfl⟩

/-- What a step that comes to its end leaves. -/
theorem settled_of_conclude
    (h : shop.conclude layout step unfinished w = (.ok next, w')) :
    next.val = step.next w'.files shop.start layout ∧
      step.Settled w'.files shop.start layout ∧ w'.gear = w.gear ∧
      (step ≠ .build → w' = w) := by
  obtain ⟨_, same, left⟩ | ⟨_, differs, -⟩ := conclude_cases h
  · cases same
    exact left
  · cases differs

/-- Why a step that does not come to its end stops. -/
theorem lack_of_conclude (h : shop.conclude layout step unfinished w = (.error failure, w')) :
    failure.isLack = true ∧ failure.step? = some step ∧ w' = w := by
  obtain ⟨_, differs, -⟩ | ⟨_, same, stopped⟩ := conclude_cases h
  · cases differs
  · cases same
    exact stopped

end Workshop

/-! ### Moments -/

/-- A point between two acts of a build. -/
inductive Moment where
  /-- A step is begun, or nothing is left to do. -/
  | entered (performed : List Step) (step : Step)
  /-- All was made ready for the command of a step, or could not be. -/
  | prepared (performed : List Step) (step : Step) (unfinished : step ≠ .done)
    (outcome : Except Failure Unit)
  /-- The command of a step was run. -/
  | answered (performed : List Step) (step : Step) (unfinished : step ≠ .done)
    (answer : Except Fault CommandResult)

namespace Moment

/-- The step that the build is at. -/
def step : Moment → Step
  | entered _ step | prepared _ step _ _ | answered _ step _ _ => step

/-- The same moment of a build that performed some steps before. -/
def after (earlier : List Step) : Moment → Moment
  | entered performed step => entered (earlier ++ performed) step
  | prepared performed step unfinished outcome =>
    prepared (earlier ++ performed) step unfinished outcome
  | answered performed step unfinished answer =>
    answered (earlier ++ performed) step unfinished answer

end Moment

namespace Workshop

variable {π ω : Type} (shop : Workshop π ω) (request : Request) (root : Path)

/-- `shop.Comes request root w m w'`: the build that is begun in the world `w` comes to the moment
`m`, and by then the world is `w'`. -/
inductive Comes (w : World π ω) : Moment → World π ω → Prop where
  | begins {step} (detected : Step.detect w.files shop.start (request.layout root) = step) :
      Comes w (.entered [] step) (shop.printAll (opening (request.layout root) step) w)
  | prepares {performed step w' outcome w''} (entered : Comes w (.entered performed step) w')
      (unfinished : step ≠ .done)
      (prepared : shop.prepare (request.layout root) (performed.contains .bootstrap) step w' =
        (outcome, w'')) :
      Comes w (.prepared performed step unfinished outcome) w''
  | answers {performed step unfinished w' answer w''}
      (prepared : Comes w (.prepared performed step unfinished (.ok ())) w')
      (answered : shop.answer (call request (request.layout root) step unfinished) w' =
        (answer, w'')) :
      Comes w (.answered performed step unfinished answer) w''
  | concludes {performed step unfinished result w' next w''}
      (answered : Comes w (.answered performed step unfinished (.ok result)) w')
      (passed : result.passed = true)
      (concluded : shop.conclude (request.layout root) step unfinished w' = (.ok next, w'')) :
      Comes w (.entered (performed ++ [step]) next.val) w''

/-- `shop.Ends request root w m out`: a build that has come to the moment `m` with the world `w`
ends there, and `out` is what it ends with. -/
inductive Ends (w : World π ω) : Moment → Except Failure Report → Prop where
  | done {performed} : Ends w (.entered performed .done) (.ok ⟨performed⟩)
  | unready {performed step unfinished failure} :
      Ends w (.prepared performed step unfinished (.error failure)) (.error failure)
  | unanswered {performed step unfinished fault} :
      Ends w (.answered performed step unfinished (.error fault)) (.error (.runner fault))
  | refused {performed step unfinished result} (failed : result.passed = false) :
      Ends w (.answered performed step unfinished (.ok result)) (.error (step.refusal unfinished))
  | lacking {performed step unfinished result failure} (passed : result.passed = true)
      (lacks : shop.conclude (request.layout root) step unfinished w = (.error failure, w)) :
      Ends w (.answered performed step unfinished (.ok result)) (.error failure)

/-- What a build that has come to a moment goes on with. -/
def onward : Moment → Task π ω Report
  | .entered performed step => shop.rest request (request.layout root) performed step
  | .prepared performed step unfinished outcome => do
    (fun w => (outcome, w) : Task π ω Unit)
    let next ← shop.work request (request.layout root) step unfinished
    shop.rest request (request.layout root) (performed ++ [step]) next.val
  | .answered performed step unfinished answer => do
    let next ← shop.finish (request.layout root) step unfinished answer
    shop.rest request (request.layout root) (performed ++ [step]) next.val

variable {shop request root} {w w' : World π ω} {m : Moment} {out : Except Failure Report}

/-- What is printed before the first step is one opening. -/
theorem complete_apply {layout : Layout} {step : Step} (unfinished : step ≠ .done) :
    shop.complete request layout step w =
      shop.rest request layout [] step (shop.printAll (opening layout step) w) := by
  unfold complete
  rw [shop.runFrom_eq_rest request layout _ false [] step (Nat.le_refl _) fun _ => rfl]
  generalize shop.rest request layout [] step = task
  cases step with
  | done => exact absurd rfl unfinished
  | download | extract | bootstrap | build => rfl

/-- A build begins with the step that the files tell. -/
theorem ensureBuilt_of_detect {step : Step}
    (detected : Step.detect w.files shop.start (request.layout root) = step) :
    shop.ensureBuilt request root w = shop.rest request (request.layout root) [] step
      (shop.printAll (opening (request.layout root) step) w) := by
  simp only [ensureBuilt, detected]
  cases step with
  | done =>
    rw [rest_done]
    rfl
  | download | extract | bootstrap | build => exact complete_apply (by decide)

/-- A build goes on from every moment that it comes to. -/
theorem Comes.ensureBuilt_eq (h : shop.Comes request root w m w') :
    shop.ensureBuilt request root w = shop.onward request root m w' := by
  induction h with
  | begins detected => exact ensureBuilt_of_detect detected
  | prepares entered unfinished prepared ih =>
    rw [ih, onward, rest_of_ne_done _ _ _ _ unfinished, Action.bind_apply, prepared]
    rfl
  | answers prepared answered ih =>
    rw [ih, onward, onward, Action.bind_of_ok rfl, Action.bind_apply, work, answered]
    rfl
  | concludes answered passed concluded ih =>
    rw [ih, onward, onward, finish_of_passed passed, Action.bind_of_ok concluded]

/-- A build that has begun a step comes to a moment at which it ends. -/
theorem Comes.exists_ends {performed : List Step} {step : Step} {w₁ : World π ω}
    (h : shop.Comes request root w (.entered performed step) w₁)
    (whole : shop.rest request (request.layout root) performed step w₁ = (out, w')) :
    ∃ m, shop.Comes request root w m w' ∧ shop.Ends request root w' m out := by
  -- the induction is on the steps that remain
  by_cases isDone : step = .done
  · subst isDone
    rw [rest_done] at whole
    cases whole
    exact ⟨_, h, .done⟩
  rw [rest_of_ne_done _ _ _ _ isDone] at whole
  rcases prepared : shop.prepare (request.layout root) (performed.contains .bootstrap) step w₁
    with ⟨failure | ⟨⟩, readied⟩
  · rw [Action.bind_of_error prepared] at whole
    cases whole
    exact ⟨_, h.prepares isDone prepared, .unready⟩
  have ready := h.prepares isDone prepared
  rw [Action.bind_of_ok prepared, Action.bind_apply, work] at whole
  rcases answered : shop.answer (call request (request.layout root) step isDone) readied
    with ⟨fault | result, left⟩
  · simp only [answered, finish_of_fault] at whole
    cases whole
    exact ⟨_, ready.answers answered, .unanswered⟩
  have ran := ready.answers answered
  cases passed : result.passed with
  | false =>
    simp only [answered, finish_of_failed passed] at whole
    cases whole
    exact ⟨_, ran, .refused passed⟩
  | true =>
    simp only [answered, finish_of_passed passed] at whole
    rcases concluded : shop.conclude (request.layout root) step isDone left
      with ⟨failure | next, after⟩
    · rw [concluded] at whole
      cases whole
      obtain ⟨-, -, rfl⟩ := lack_of_conclude concluded
      exact ⟨_, ran, .lacking passed concluded⟩
    · rw [concluded] at whole
      have := next.property
      exact (ran.concludes passed concluded).exists_ends whole
termination_by step.remaining

/-- **The ways of a build.** A build ends in some way just if it comes to a moment at which it ends
so. -/
theorem ensureBuilt_eq_iff : shop.ensureBuilt request root w = (out, w') ↔
    ∃ m, shop.Comes request root w m w' ∧ shop.Ends request root w' m out := by
  constructor
  · intro h
    have begun : shop.Comes request root w _ _ := .begins rfl
    rw [begun.ensureBuilt_eq] at h
    exact begun.exists_ends h
  · rintro ⟨m, comes, ends⟩
    rw [comes.ensureBuilt_eq]
    -- from the last moment on the loop does nothing but end
    cases ends with
    | done => rw [onward, rest_done]; rfl
    | unready => rfl
    | unanswered => rfl
    | refused failed => exact Action.bind_of_error (finish_of_failed failed w') _
    | lacking passed lacks =>
      rw [onward, finish_of_passed passed, Action.bind_of_error lacks]

end Workshop

end Orchestrator.Boost
