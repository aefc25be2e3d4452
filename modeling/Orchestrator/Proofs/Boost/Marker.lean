import Orchestrator.Proofs.Boost.Resume

namespace Orchestrator

/-!
# The marker — a build is completed at most once

A build makes its marker last. So the marker is there after a build just if the build succeeded, and
once it is there nothing is done any more. This is so as long as what is made is a file: where a
device stands it is opened in place of a file, and then it is no marker.

* `Workshop.ensureBuilt_of_marked` — with a marker nothing is left to do.
* `Workshop.completed_of_ok` — a build that did something and succeeded has just made its marker.
* `Workshop.ok_iff_marked` — the marker tells whether a build succeeded.
* `Attempt` — one build of a sequence, with a runner of its own.
* `CompletesOnce` — a sequence of builds is completed at most once.
* `Bench.ensureBuilt_completes_once` — when it is: just if no build opens a device as its marker.
* `Bench.completes_twice` — with a device for a marker, every build is completed anew.
-/

open Boost Workshop

namespace Boost.Workshop

variable {π ω : Type} {shop : Workshop π ω} {request : Request} {root : Path} {w w' : World π ω}

/-- The marker of a build is there. -/
def marked (shop : Workshop π ω) (request : Request) (root : Path) (w : World π ω) : Bool :=
  w.files.isFile shop.start (request.layout root).marker

/-- Nothing but the build itself makes a marker or takes it away, as long as it is not done. -/
def Steady (shop : Workshop π ω) (request : Request) (root : Path) (w : World π ω) : Prop :=
  ∀ m v, shop.Comes request root w m v → m.step ≠ .done →
    shop.marked request root v = shop.marked request root w

/-- With a marker nothing is left to do. -/
theorem ensureBuilt_of_marked (there : shop.marked request root w = true) :
    shop.ensureBuilt request root w = (.ok ⟨[]⟩, w) := by
  simp only [ensureBuilt, Step.detect_eq_done_iff.2 there]

/-- The last command of a build was the one that builds the libraries. It succeeded, and nothing
was done after it but that the marker was made, an empty file. -/
structure Completed (shop : Workshop π ω) (request : Request) (root : Path) (w : World π ω)
    (performed : List Step) (w' : World π ω) : Prop where
  built : ∃ earlier unfinished result before,
    performed = earlier ++ [.build] ∧ result.code = 0 ∧
    shop.Comes request root w (.answered earlier .build unfinished (.ok result)) before ∧
    w'.gear = before.gear
  empty : ∃ at_ f, w'.files.stat shop.start (request.layout root).marker = .ok (.file at_ f) ∧
    f.contents = []

/-- The empty file that a build leaves is its marker. -/
theorem Completed.marked {performed : List Step}
    (h : Completed shop request root w performed w') : shop.marked request root w' = true := by
  unfold Workshop.marked FileSystem.isFile
  obtain ⟨at_, f, found, -⟩ := h.empty
  rw [found]

/-- A build that did something and succeeded has just made its marker, if it did not open a device in
its place. -/
theorem completed_of_ok {report : Report} (some_ : report.performed ≠ [])
    (h : shop.ensureBuilt request root w = (.ok report, w'))
    (regular : w'.files.isDevice shop.start (request.layout root).marker = false) :
    Completed shop request root w report.performed w' := by
  obtain ⟨m, comes, ends⟩ := ensureBuilt_eq_iff.1 h
  cases ends with
  | @done performed =>
    -- the last of the steps comes right before the end, so it built the libraries
    have split := (List.dropLast_concat_getLast some_).symm
    generalize performed.getLast some_ = last at split
    generalize performed.dropLast = earlier at split
    dsimp only at split ⊢
    subst split
    obtain rfl := comes.eq_done_iff.1 rfl
    obtain ⟨unfinished, result, later, before, answered, passed, -, concluded⟩ := comes.of_entered
    refine ⟨⟨earlier, unfinished, result, before, rfl, ?_, answered,
      (settled_of_conclude concluded).2.2.1⟩, ?_⟩
    · simpa [CommandResult.passed] using passed
    · rw [conclude_build] at concluded
      split at concluded
      · next handle files made =>
        cases concluded
        obtain ⟨-, g, -, blank, -, -, found⟩ | ⟨device, rfl, -⟩ :=
          FileSystem.createFile_cases made
        · exact ⟨_, g, found, blank⟩
        · -- a device would have taken the marker
          exact absurd device (by simp [show _ = false from regular])
      · cases concluded

/-- **The marker tells.** If nothing else makes a marker or takes it away, it is there after a build
just if the build succeeded; unless the build did something and opened a device in its place. -/
theorem ok_iff_marked (steady : shop.Steady request root w)
    (regular : ∀ report, (shop.ensureBuilt request root w).1 = .ok report → report.performed ≠ [] →
      (shop.ensureBuilt request root w).2.files.isDevice shop.start (request.layout root).marker
        = false) :
    (∃ report, (shop.ensureBuilt request root w).1 = .ok report) ↔
      shop.marked request root (shop.ensureBuilt request root w).2 = true := by
  by_cases there : shop.marked request root w = true
  · simp [ensureBuilt_of_marked there, there]
  rcases ended : shop.ensureBuilt request root w with ⟨failure | report, w'⟩
  all_goals rw [ended] at regular
  · -- it stopped at a moment before its last step was done
    obtain ⟨m, comes, ends⟩ := ensureBuilt_eq_iff.1 ended
    have undone : m.step ≠ .done := by
      generalize stopped : Except.error failure = out at ends
      cases ends with
      | done => cases stopped
      | @unready _ _ unfinished => exact unfinished
      | @unanswered _ _ unfinished => exact unfinished
      | @refused _ _ unfinished => exact unfinished
      | @lacking _ _ unfinished => exact unfinished
    simp [steady m w' comes undone, there]
  · -- it began without the marker, so something was done
    have some_ : report.performed ≠ [] := by
      intro none
      obtain ⟨m, comes, ends⟩ := ensureBuilt_eq_iff.1 ended
      cases ends with
      | done =>
        dsimp only at none
        subst none
        generalize whole : Moment.entered [] Step.done = m at comes
        cases comes with
        | begins detected =>
          cases whole
          exact there (Step.detect_eq_done_iff.1 detected)
        | concludes => simp at whole
        | prepares => cases whole
        | answers => cases whole
    simp [(completed_of_ok some_ ended (regular report rfl some_)).marked]

end Boost.Workshop

/-- A build that is made: what answers its commands, and the world that it is begun in. -/
structure Attempt (π γ τ ρ : Type) where
  respond : Responder π ρ
  before : World π (Bench γ τ ρ)

namespace Attempt

variable {π γ τ ρ : Type} (start : Place) (request : Request) (root : Path)
  (a : Attempt π γ τ ρ)

/-- What the build works with. -/
def shop : Workshop π (Bench γ τ ρ) := Bench.workshop start a.respond

/-- The build is made. -/
def run : Except Failure Report × World π (Bench γ τ ρ) :=
  (a.shop start).ensureBuilt request root a.before

/-- The build did something and succeeded. -/
def completes : Bool :=
  match (a.run start request root).1 with
  | .ok report => !report.alreadyBuilt
  | .error _ => false

/-- A device stands at the place of the marker when the build has ended. -/
def deviceAfter : Bool :=
  (a.run start request root).2.files.isDevice start (request.layout root).marker

/-- The marker is there when the build is begun. -/
def markedBefore : Bool := (a.shop start).marked request root a.before

/-- The marker is there when the build has ended. -/
def markedAfter : Bool := (a.shop start).marked request root (a.run start request root).2

variable {start request root a}

/-- A build that finds its marker does nothing. -/
theorem run_of_markedBefore (h : a.markedBefore start request root = true) :
    a.run start request root = (.ok ⟨[]⟩, a.before) :=
  ensureBuilt_of_marked h

/-- What it is to do something and succeed. -/
theorem completes_iff : a.completes start request root = true ↔
    ∃ report, (a.run start request root).1 = .ok report ∧ report.performed ≠ [] := by
  unfold completes
  split
  · next report ok => simp [ok, Report.alreadyBuilt]
  · next failure stopped => simp [stopped]

/-- Between builds the marker neither comes nor goes. -/
def Linked (start : Place) (request : Request) (root : Path) (attempts : List (Attempt π γ τ ρ)) :
    Prop :=
  ∀ earlier a b later, attempts = earlier ++ a :: b :: later →
    b.markedBefore start request root = a.markedAfter start request root

/-- All builds but the first are made one after another as well. -/
theorem Linked.tail {attempts : List (Attempt π γ τ ρ)}
    (h : Linked start request root (a :: attempts)) : Linked start request root attempts := by
  intro earlier b c later split
  exact h (a :: earlier) b c later (by rw [split, List.cons_append])

/-- Once the marker is there, it is there whenever a build is begun. -/
theorem Linked.markedBefore {attempts : List (Attempt π γ τ ρ)}
    (h : Linked start request root (a :: attempts))
    (there : a.markedAfter start request root = true) :
    ∀ b ∈ attempts, b.markedBefore start request root = true := by
  induction attempts generalizing a with
  | nil => simp
  | cons b rest ih =>
    have found : b.markedBefore start request root = true := by rw [h [] a b rest rfl, there]
    have kept : b.markedAfter start request root = true := by
      rw [markedAfter, run_of_markedBefore found]
      exact found
    exact List.forall_mem_cons.2 ⟨found, ih h.tail kept⟩

end Attempt

namespace Bench

variable {π γ τ ρ : Type} {start : Place} {respond : Responder π ρ} {request : Request}
  {root : Path} {w w' : World π (Bench γ τ ρ)}

/-- The last call of the runner is for the command that was answered last. -/
theorem calls_of_answered {performed : List Step} {step : Step} {unfinished : step ≠ .done}
    {answer : Except Fault CommandResult}
    (h : (workshop start respond).Comes request root w (.answered performed step unfinished answer)
      w') :
    w'.gear.calls.back? = some (call request (request.layout root) step unfinished) := by
  cases h with
  | answers prepared answered =>
    have left := congrArg (·.2.gear.calls.back?) answered
    simpa [calls_answer] using left.symm

/-- Builds that were made one after another were completed at most once. -/
structure CompletesOnce (start : Place) (request : Request) (root : Path)
    (attempts : List (Attempt π γ τ ρ)) : Prop where
  /-- A build succeeded just if the marker is there afterwards. -/
  tells : ∀ a ∈ attempts, (∃ report, (a.run start request root).1 = .ok report) ↔
    a.markedAfter start request root = true
  /-- At most one build did something and succeeded. -/
  once : attempts.countP (·.completes start request root) ≤ 1
  /-- The last command of that one built the libraries and succeeded, and the marker is left an empty
  file. -/
  builds : ∀ a ∈ attempts, ∀ report, (a.run start request root).1 = .ok report →
    report.performed ≠ [] →
    Completed (a.shop start) request root a.before report.performed
        (a.run start request root).2 ∧
      (a.run start request root).2.gear.calls.back? =
        some ⟨⟨(request.layout root).b2.display,
            ["--with-context", "--with-coroutine", "--with-thread"]⟩,
          ⟨some (request.layout root).extractDir, []⟩⟩
  /-- Once a build has succeeded, every later one reports that nothing was left to do, and changes
  nothing: it runs nothing, prints nothing and leaves the files as they are. -/
  later : attempts.Pairwise fun a b => (∃ report, (a.run start request root).1 = .ok report) →
    b.run start request root = (.ok ⟨[]⟩, b.before)

/-- Of builds after which nothing is left to do, no more than one is completed. -/
theorem countP_completes_le {attempts : List (Attempt π γ τ ρ)}
    (later : attempts.Pairwise fun a b => (∃ report, (a.run start request root).1 = .ok report) →
      b.run start request root = (.ok ⟨[]⟩, b.before)) :
    attempts.countP (·.completes start request root) ≤ 1 := by
  -- the induction is on the attempts; the first that completes makes all after it idle
  induction later with
  | nil => simp
  | @cons a rest after _ ih =>
    rw [List.countP_cons]
    by_cases completes : a.completes start request root = true
    · -- it succeeded, so that all after it find nothing left to do
      obtain ⟨report, ok, -⟩ := Attempt.completes_iff.1 completes
      have idle : rest.countP (·.completes start request root) = 0 := by
        refine List.countP_eq_zero.2 fun b mem => ?_
        simp [Attempt.completes, after b mem ⟨report, ok⟩, Report.alreadyBuilt]
      simp [idle, completes]
    · simpa [completes] using ih

/-- Where the marker tells that a build succeeded, those after it find nothing left to do. -/
theorem pairwise_idle {attempts : List (Attempt π γ τ ρ)}
    (linked : Attempt.Linked start request root attempts)
    (tells : ∀ a ∈ attempts, (∃ report, (a.run start request root).1 = .ok report) ↔
      a.markedAfter start request root = true) :
    attempts.Pairwise fun a b => (∃ report, (a.run start request root).1 = .ok report) →
      b.run start request root = (.ok ⟨[]⟩, b.before) := by
  induction attempts with
  | nil => exact .nil
  | cons a rest ih =>
    refine .cons (fun b mem ok => ?_) (ih linked.tail fun b mem => tells b (.tail _ mem))
    have there := (tells a (.head _)).1 ok
    exact Attempt.run_of_markedBefore (linked.markedBefore there b mem)

/-- The last call of a completed build is for the libraries. -/
theorem back?_of_completed {respond : Responder π ρ} {w w' : World π (Bench γ τ ρ)}
    {performed : List Step}
    (completed : Completed (workshop start respond) request root w performed w') :
    w'.gear.calls.back? = some ⟨⟨(request.layout root).b2.display,
        ["--with-context", "--with-coroutine", "--with-thread"]⟩,
      ⟨some (request.layout root).extractDir, []⟩⟩ := by
  obtain ⟨earlier, unfinished, result, before, -, -, answered, gear⟩ := completed.built
  rw [gear, calls_of_answered answered]
  rfl

/-- **When a build is completed at most once.** Let builds be made one after another, each with a
runner of its own, so that nothing but a build itself makes its marker or takes it away. They are
completed at most once just if no build that is completed finds a device at the place of its
marker. -/
theorem ensureBuilt_completes_once (attempts : List (Attempt π γ τ ρ))
    (steady : ∀ a ∈ attempts, (a.shop start).Steady request root a.before)
    (linked : Attempt.Linked start request root attempts) :
    CompletesOnce start request root attempts ↔
      ∀ a ∈ attempts, a.completes start request root = true →
        a.deviceAfter start request root = false := by
  constructor
  · -- what tells that a build succeeded is a file, and a file is no device
    intro h a mem completes
    obtain ⟨report, ok, -⟩ := Attempt.completes_iff.1 completes
    have file : a.markedAfter start request root = true := (h.tells a mem).1 ⟨report, ok⟩
    cases device : a.deviceAfter start request root with
    | false => rfl
    | true =>
      have noFile : a.markedAfter start request root = false := FileSystem.isFile_of_isDevice device
      simp [noFile] at file
  intro noDevice
  have regular a (mem : a ∈ attempts) (report : Report)
      (ok : (a.run start request root).1 = .ok report) (some_ : report.performed ≠ []) :
      a.deviceAfter start request root = false :=
    noDevice a mem (Attempt.completes_iff.2 ⟨report, ok, some_⟩)
  have tells : ∀ a ∈ attempts, (∃ report, (a.run start request root).1 = .ok report) ↔
      a.markedAfter start request root = true :=
    fun a mem => ok_iff_marked (steady a mem) (regular a mem)
  have later := pairwise_idle linked tells
  refine ⟨tells, countP_completes_le later, fun a mem report ok some_ => ?_, later⟩
  have whole : a.run start request root = (.ok report, (a.run start request root).2) :=
    Prod.ext ok rfl
  have completed := completed_of_ok some_ whole (regular a mem report ok some_)
  exact ⟨completed, back?_of_completed completed⟩

/-! ### Builds whose commands change no files -/

/-- A build whose commands change no files. -/
def idle (code : Int) (w : World Unit (Bench Unit Unit Nat)) : Attempt Unit Unit Unit Nat :=
  ⟨leaving w.files code, w⟩

/-- With commands that change no files, nothing but the build makes a marker. -/
theorem steady_idle {code : Int} {w : World Unit (Bench Unit Unit Nat)}
    (extracted : (Step.detect w.files start (request.layout root)).remaining ≤ 2) :
    ((idle code w).shop start).Steady request root w := by
  intro m v comes undone
  rcases (comes_leaving start extracted comes).2 undone with same | same <;>
    rw [marked, same, marked]

/-- Building fails, then it succeeds, and then it is asked for once more. -/
def threeBuilds : List (Attempt Unit Unit Unit Nat) :=
  let failing := idle 1 (having tooled)
  let passing := idle 0 (failing.run .root smallRequest smallRoot).2
  [failing, passing, idle 0 (passing.run .root smallRequest smallRoot).2]

/-- The second of the three builds is completed, and it is the only one. -/
theorem ensureBuilt_completes_once_threeBuilds :
    (∀ a ∈ threeBuilds, (a.shop .root).Steady smallRequest smallRoot a.before) ∧
    Attempt.Linked .root smallRequest smallRoot threeBuilds ∧
    threeBuilds.map (·.completes .root smallRequest smallRoot) = [false, true, false] ∧
    CompletesOnce .root smallRequest smallRoot threeBuilds := by
  have linked : Attempt.Linked .root smallRequest smallRoot threeBuilds := by
    intro earlier a b later split
    match earlier, split with
    | [], split | [_], split =>
      cases split
      rfl
    | _ :: _ :: _, split =>
      have short := congrArg List.length split
      simp [threeBuilds] at short
      omega
  have steady : ∀ a ∈ threeBuilds, (a.shop .root).Steady smallRequest smallRoot a.before := by
    refine List.forall_mem_cons.2 ⟨?_, List.forall_mem_cons.2 ⟨?_, List.forall_mem_singleton.2 ?_⟩⟩
    all_goals exact steady_idle (by decide +kernel)
  refine ⟨steady, linked, by decide +kernel,
    (ensureBuilt_completes_once threeBuilds steady linked).2 ?_⟩
  decide +kernel

/-- A version whose marker is a device is asked for twice. -/
def twoBuilds : List (Attempt Unit Unit Unit Nat) :=
  let first := idle 0 (having nullTooled)
  [first, idle 0 (first.run .root nullRequest smallRoot).2]

/-- A device that is opened as the marker marks nothing: both builds succeed without a marker, and
both build the libraries. -/
theorem completes_twice :
    (∀ a ∈ twoBuilds, (a.shop .root).Steady nullRequest smallRoot a.before) ∧
    Attempt.Linked .root nullRequest smallRoot twoBuilds ∧
    twoBuilds.map (·.completes .root nullRequest smallRoot) = [true, true] ∧
    twoBuilds.map (·.markedAfter .root nullRequest smallRoot) = [false, false] ∧
    ¬CompletesOnce .root nullRequest smallRoot twoBuilds := by
  refine ⟨?_, ?_, by decide +kernel, by decide +kernel, fun h => absurd h.once ?_⟩
  · refine List.forall_mem_cons.2 ⟨?_, List.forall_mem_singleton.2 ?_⟩
    all_goals exact steady_idle (by decide +kernel)
  · intro earlier a b later split
    match earlier, split with
    | [], split =>
      cases split
      rfl
    | _ :: _, split =>
      have short := congrArg List.length split
      simp [twoBuilds] at short
      omega
  · decide +kernel

end Bench

end Orchestrator
