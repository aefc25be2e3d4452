import Mathlib.Data.List.Flatten
import Orchestrator.Proofs.Boost.Marker
import Orchestrator.Proofs.Boost.Shape
import Orchestrator.Proofs.FileSystem.Directories
import Orchestrator.Proofs.Path

namespace Orchestrator

/-!
# Changes — what a build does to the files

Nearly all that happens to the files in a build is done by its commands. A build itself makes the
directory to extract into, right before it extracts, and the marker, right after it has built.

* `Change` — what changes files in a build; `Change.after` — what some changes leave.
* `Moment.changes` — the changes that were made by a moment.
* `Bench.after_of_comes` — they leave what the build finds at that moment.
* `Bench.own_of_comes` — a build makes at most two changes itself.
* `MakesParentDir`, `MakesMarker` — when it makes them, and what each of them changes.
* `Bench.ensureBuilt_changes` — all of this, for every build.
-/

open Boost Workshop

namespace Boost

/-- What changes files in a build. -/
inductive Change where
  /-- The directory to extract into is made, with everything missing above it. -/
  | parentDir
  /-- A command is run. -/
  | command (call : Call)
  /-- The marker is made, an empty file. -/
  | marker
  deriving DecidableEq

namespace Change

/-- The command that makes a change. -/
def call? : Change → Option Call
  | command call => some call
  | parentDir | marker => none

/-- The build makes the change itself. -/
def isOwn (change : Change) : Bool := change.call?.isNone

variable {π ρ : Type} (start : Place) (layout : Layout) (respond : Responder π ρ)

/-- The runner and the files after a change. What cannot be made is left as it is. -/
def apply (s : ρ × FileSystem π) : Change → ρ × FileSystem π
  | parentDir => (s.1, (s.2.makeDirectories start layout.parentDir).2)
  | command call => (respond call s.1 s.2).2
  | marker =>
    match s.2.createFile start layout.marker with
    | .ok (_, files) => (s.1, files)
    | .error _ => s

/-- The runner and the files after changes in order. -/
def after (s : ρ × FileSystem π) (changes : List Change) : ρ × FileSystem π :=
  changes.foldl (apply start layout respond) s

/-- Changes and then other changes are made like all of them in a row. -/
theorem after_append (s : ρ × FileSystem π) (first second : List Change) :
    after start layout respond s (first ++ second)
      = after start layout respond (after start layout respond s first) second :=
  List.foldl_append

/-- The last change is made to what those before it have left. -/
theorem after_concat (s : ρ × FileSystem π) (first : List Change) (change : Change) :
    after start layout respond s (first ++ [change])
      = apply start layout respond (after start layout respond s first) change :=
  after_append start layout respond s first [change]

/-- Where the marker can be made, making it leaves what making a file leaves. -/
theorem apply_marker {s : ρ × FileSystem π} {handle : FileSystem.Handle} {files : FileSystem π}
    (made : s.2.createFile start layout.marker = .ok (handle, files)) :
    apply start layout respond s marker = (s.1, files) := by
  simp only [apply, made]

end Change

/-! ### The changes by a moment -/

namespace Step

/-- What a build changes itself before the command of a step. -/
def prelude : Step → List Change
  | extract => [.parentDir]
  | _ => []

/-- What a build changes itself behind the command of a step, if this has succeeded. -/
def coda : Step → List Change
  | build => [.marker]
  | _ => []

/-- Only extracting changes files before its command is run. -/
theorem prelude_of_ne {step : Step} (other : step ≠ extract) : step.prelude = [] := by
  cases step with
  | extract => exact absurd rfl other
  | download | bootstrap | build | done => rfl

/-- Only building changes files after its command was run. -/
theorem coda_of_ne {step : Step} (other : step ≠ build) : step.coda = [] := by
  cases step with
  | build => exact absurd rfl other
  | download | extract | bootstrap | done => rfl

/-- The changes of a step that comes to its end. -/
def changes (request : Request) (layout : Layout) (step : Step) : List Change :=
  if isDone : step = done then []
  else step.prelude ++ .command (call request layout step isDone) :: step.coda

/-- What a build changes itself in a step that comes to its end. -/
def own (step : Step) : List Change := step.prelude ++ step.coda

/-- A step has its command run, with what the build itself changes before and after it. -/
theorem changes_of_ne_done (request : Request) (layout : Layout) {step : Step}
    (unfinished : step ≠ done) : step.changes request layout =
      step.prelude ++ [.command (call request layout step unfinished)] ++ step.coda := by
  rw [changes, dif_neg unfinished, List.append_assoc, List.singleton_append]

/-- Of the changes of a step, those that the build makes itself are its own. -/
theorem filter_changes (request : Request) (layout : Layout) (step : Step) :
    (step.changes request layout).filter Change.isOwn = step.own := by
  cases step <;> rfl

/-- Steps that come one right after the other are some of all steps, in their order. -/
theorem sublist_of_isChain {step : Step} {steps : List Step}
    (chain : (step :: steps).IsChain Before) :
    (step :: steps).Sublist (all.dropWhile (· ≠ step)) := by
  induction steps generalizing step with
  | nil => cases step <;> decide
  | cons next steps ih =>
    obtain ⟨before, chain⟩ := List.isChain_cons_cons.1 chain
    refine ((ih chain).cons_cons step).trans ?_
    cases before <;> decide

end Step

namespace Moment

variable (request : Request) (layout : Layout)

/-- The changes that were made by a moment. -/
def changes : Moment → List Change
  | entered performed _ => performed.flatMap (Step.changes request layout)
  | prepared performed step _ _ => performed.flatMap (Step.changes request layout) ++ step.prelude
  | answered performed step unfinished _ => performed.flatMap (Step.changes request layout)
    ++ step.prelude ++ [.command (call request layout step unfinished)]

variable (performed : List Step) {step : Step} (unfinished : step ≠ .done)

/-- At the moment when a step is prepared, its own changes before the command were made. -/
theorem changes_prepared (outcome : Except Failure Unit) :
    (prepared performed step unfinished outcome).changes request layout
      = (entered performed step).changes request layout ++ step.prelude := rfl

/-- At the moment when its command was run, that was made as well. -/
theorem changes_answered (outcome : Except Failure Unit) (answer : Except Fault CommandResult) :
    (answered performed step unfinished answer).changes request layout
      = (prepared performed step unfinished outcome).changes request layout
        ++ [.command (call request layout step unfinished)] := rfl

/-- At the moment when the next step is entered, all changes of a step were made. -/
theorem changes_concluded (answer : Except Fault CommandResult) (next : Step) :
    (entered (performed ++ [step]) next).changes request layout
      = (answered performed step unfinished answer).changes request layout ++ step.coda := by
  rw [changes, changes, List.flatMap_append, List.flatMap_singleton,
    Step.changes_of_ne_done _ _ unfinished]
  simp only [List.append_assoc]

/-- A build changes no more itself than it does in the steps that it entered. -/
theorem filter_changes_sublist (m : Moment) :
    ((m.changes request layout).filter Change.isOwn).Sublist (m.trail.flatMap Step.own) := by
  have past (performed : List Step) :
      (performed.flatMap (Step.changes request layout)).filter Change.isOwn
        = performed.flatMap Step.own := by
    simp only [List.filter_flatMap, Step.filter_changes]
  rw [trail, List.flatMap_append, List.flatMap_singleton]
  cases m with
  | entered performed step =>
    rw [changes, past]
    exact List.sublist_append_left _ _
  | prepared performed step unfinished _ | answered performed step unfinished _ =>
    have present : step.prelude.filter Change.isOwn = step.prelude := by cases step <;> rfl
    -- of the step that is under way only what came before its command can have been done
    simp only [changes, List.filter_append, past, present]
    simp [Moment.performed, Moment.step, Step.own, Change.isOwn, Change.call?]

end Moment

end Boost

namespace Bench

variable {π γ τ ρ : Type} {start : Place} {respond : Responder π ρ} {request : Request}
  {root : Path} {layout : Layout} {w v : World π (Bench γ τ ρ)} {m : Moment}

/-- The runner and the files of a bench. -/
def left (w : World π (Bench γ τ ρ)) : ρ × FileSystem π := (w.gear.runner, w.files)

/-! ### What each act changes -/

/-- Worlds that are alike have the same runner and files. -/
theorem Alike.left_eq (h : Alike w v) : left w = left v := by
  rw [left, left, h.runner, h.files]

/-- Before its command, a step makes a directory or nothing; if it cannot, it stops. -/
theorem left_of_prepare {told : Bool} {step : Step} {out : Except Failure Unit}
    (h : (workshop start respond).prepare layout told step w = (out, v)) :
    left v = Change.after start layout respond (left w) step.prelude ∧
      (step = .extract →
        out = (w.files.makeDirectories start layout.parentDir).1.mapError
          (.createDir layout.parentDir)) := by
  have printed (lines : List String) := alike_printAll start respond lines w
  -- only one step changes anything before its command: it makes the directory for the sources
  by_cases isExtract : step = .extract
  · subst isExtract
    have alike := printed (announcement layout told .extract)
    unfold prepare at h
    rw [ready, makeParentDir, alike.files] at h
    have made : Change.after start layout respond (left w) [.parentDir]
        = (w.gear.runner, (w.files.makeDirectories start layout.parentDir).2) := rfl
    rw [Step.prelude, made]
    split at h
    all_goals
      next whole =>
      cases h
      have whole : w.files.makeDirectories start layout.parentDir = _ := whole
      rw [whole]
      exact ⟨congrArg (·, _) alike.runner, fun _ => rfl⟩
  · refine ⟨?_, fun same => absurd same isExtract⟩
    obtain ⟨⟨-, same⟩, -⟩ := prepare_cases h
    rw [Step.prelude_of_ne isExtract, same isExtract]
    exact (printed _).left_eq

/-- A command changes what its runner does. -/
theorem left_of_answer {made : Call} {answer : Except Fault CommandResult}
    (h : (workshop start respond).answer made w = (answer, v)) :
    left v = Change.after start layout respond (left w) [.command made] := by
  obtain ⟨-, rfl⟩ := Prod.mk.inj h
  rfl

/-- Behind its command, a step makes the marker or nothing. -/
theorem left_of_conclude {step : Step} {unfinished : step ≠ .done} {next : Later step}
    (h : (workshop start respond).conclude layout step unfinished w = (.ok next, v)) :
    left v = Change.after start layout respond (left w) step.coda ∧
      (step = .build → ∃ handle,
        w.files.createFile start layout.marker = .ok (handle, v.files)) := by
  -- only the last step changes anything after its command: it makes the marker
  by_cases isBuild : step = .build
  · subst isBuild
    rw [conclude_build] at h
    split at h
    · next handle files made =>
      cases h
      have made : w.files.createFile start layout.marker = .ok (handle, files) := made
      exact ⟨(Change.apply_marker start layout respond (s := left w) made).symm,
        fun _ => ⟨handle, made⟩⟩
    · cases h
  · refine ⟨?_, fun same => absurd same isBuild⟩
    rw [Step.coda_of_ne isBuild, (settled_of_conclude h).2.2.2 isBuild]
    rfl

/-- **The changes of a build.** At every moment of a build, the files and the runner are as the
changes until then have left them, one after another. -/
theorem after_of_comes (h : (workshop start respond).Comes request root w m v) :
    left v = Change.after start (request.layout root) respond (left w)
      (m.changes request (request.layout root)) := by
  -- each act of a build makes just the changes by which the moment after it has more
  induction h with
  | begins detected => exact (alike_printAll start respond _ w).left_eq
  | @prepares performed _ _ _ _ entered unfinished prepared ih =>
    rw [(left_of_prepare prepared).1, ih, ← Change.after_append, Moment.changes_prepared]
  | @answers performed _ unfinished _ _ _ prepared answered ih =>
    rw [left_of_answer answered, ih, ← Change.after_append, Moment.changes_answered]
  | @concludes performed _ unfinished _ _ _ _ answered passed concluded ih =>
    rw [(left_of_conclude concluded).1, ih, ← Change.after_append,
      Moment.changes_concluded _ _ performed unfinished]

/-- The runner's calls are the changes that were made by commands. -/
theorem calls_of_changes (h : (workshop start respond).Comes request root w m v) :
    v.gear.calls.toList = w.gear.calls.toList
      ++ (m.changes request (request.layout root)).filterMap Change.call? := by
  -- neither what comes before a command nor what comes after it is a call
  induction h with
  | begins detected =>
    rw [(alike_printAll start respond _ w).calls]
    exact (List.append_nil _).symm
  | @prepares performed step _ _ _ entered unfinished prepared ih =>
    have none : step.prelude.filterMap Change.call? = [] := by cases step <;> rfl
    rw [calls_of_prepare prepared, ih, Moment.changes_prepared, List.filterMap_append, none,
      List.append_nil]
  | @answers performed step unfinished _ _ _ prepared answered ih =>
    have pushed := congrArg (·.2.gear.calls.toList) answered
    simp only [calls_answer, Array.toList_push] at pushed
    rw [← pushed, ih, Moment.changes_answered _ _ _ _ (.ok ()), List.filterMap_append,
      List.append_assoc]
    rfl
  | @concludes performed step unfinished _ _ _ _ answered passed concluded ih =>
    have none : step.coda.filterMap Change.call? = [] := by cases step <;> rfl
    rw [(settled_of_conclude concluded).2.2.1, ih,
      Moment.changes_concluded _ _ performed unfinished, List.filterMap_append, none,
      List.append_nil]

/-- **A build makes at most two changes itself.** These are the directory to extract into and then
the marker. -/
theorem own_of_comes (h : (workshop start respond).Comes request root w m v) :
    ((m.changes request (request.layout root)).filter Change.isOwn).Sublist
      [.parentDir, .marker] := by
  have chain := h.isChain.2
  obtain ⟨first, rest, trail⟩ : ∃ first rest, m.trail = first :: rest :=
    List.exists_cons_of_ne_nil (by simp [Moment.trail])
  rw [trail] at chain
  have some_ := (Step.sublist_of_isChain chain).trans (List.dropWhile_sublist _)
  rw [← trail] at some_
  exact (m.filter_changes_sublist _ _).trans (some_.flatMap Step.own)

/-! ### What a build changes itself -/

/-- One of some changes is among the first of them, or among the others. -/
theorem split_append {first more before later : List Change} {change : Change}
    (split : first ++ more = before ++ change :: later) :
    (∃ between, first = before ++ change :: between ∧ later = between ++ more) ∨
      ∃ between, before = first ++ between ∧ more = between ++ change :: later := by
  rcases List.append_eq_append_iff.1 split with ⟨between, rfl, rest⟩ | ⟨between, rfl, rest⟩
  · exact .inr ⟨between, rfl, rest⟩
  · cases between with
    | nil => exact .inr ⟨[], by simp, rest.symm⟩
    | cons other between =>
      obtain ⟨rfl, rfl⟩ := List.cons.inj rest
      exact .inl ⟨between, rfl, rfl⟩

/-- The directory to extract into is made when that step has been begun. If it cannot be made, this
was the last change; else the sources are extracted next. -/
theorem parentDir_of_comes (h : (workshop start respond).Comes request root w m v)
    {before later : List Change}
    (split : m.changes request (request.layout root) = before ++ .parentDir :: later) :
    ∃ performed v', (workshop start respond).Comes request root w (.entered performed .extract) v' ∧
      (Moment.entered performed .extract).changes request (request.layout root) = before ∧
      let parentDir := (request.layout root).parentDir
      let made := (v'.files.makeDirectories start parentDir).1
      (later = [] ∧ ∃ unfinished,
        m = .prepared performed .extract unfinished (made.mapError (.createDir parentDir))) ∨
      (made = .ok () ∧
        later.head? =
          some (.command (call request (request.layout root) .extract (by decide)))) := by
  -- an act adds one change at most, which is this one or comes behind it
  induction h generalizing later with
  | begins => simp [Moment.changes] at split
  | @prepares performed step v₁ outcome v₂ entered unfinished prepared ih =>
    rw [Moment.changes_prepared] at split
    obtain ⟨between, first, rfl⟩ | ⟨between, rfl, rest⟩ := split_append split
    · obtain ⟨earlier, v', comes, same, ⟨-, _, ⟨⟩⟩ | ⟨made, next⟩⟩ := ih first
      exact ⟨earlier, v', comes, same, .inr ⟨made, by simp [next]⟩⟩
    · cases step with
      | extract =>
        obtain ⟨rfl, rfl⟩ : between = [] ∧ later = [] := by
          simpa [Step.prelude, List.cons_eq_append_iff] using rest
        rw [(left_of_prepare prepared).2 rfl]
        exact ⟨performed, v₁, entered, (List.append_nil _).symm, .inl ⟨rfl, unfinished, rfl⟩⟩
      | download | bootstrap | build | done => simp [Step.prelude] at rest
  | @answers performed step unfinished v₁ answer v₂ prepared answered ih =>
    rw [Moment.changes_answered _ _ _ _ (.ok ())] at split
    obtain ⟨between, first, rfl⟩ | ⟨between, rfl, rest⟩ := split_append split
    · obtain ⟨earlier, v', comes, same, ⟨rfl, unfinished', now⟩ | ⟨made, next⟩⟩ := ih first
      · -- it could be made, and what comes next is the command
        generalize made : (v'.files.makeDirectories start _).1 = outcome at now
        cases outcome <;> cases now
        exact ⟨performed, v', comes, same, .inr ⟨made, rfl⟩⟩
      · exact ⟨earlier, v', comes, same, .inr ⟨made, by simp [next]⟩⟩
    · simp [List.cons_eq_append_iff] at rest
  | @concludes performed step unfinished result v₁ next v₂ answered passed concluded ih =>
    rw [Moment.changes_concluded _ _ performed unfinished (.ok result)] at split
    obtain ⟨between, first, rfl⟩ | ⟨between, rfl, rest⟩ := split_append split
    · obtain ⟨earlier, v', comes, same, ⟨-, _, ⟨⟩⟩ | ⟨made, next⟩⟩ := ih first
      exact ⟨earlier, v', comes, same, .inr ⟨made, by simp [next]⟩⟩
    · cases step <;> simp [Step.coda, List.cons_eq_append_iff] at rest

/-- The marker is the last change of a build. It is made right after the libraries were built. -/
theorem marker_of_comes (h : (workshop start respond).Comes request root w m v)
    {before later : List Change}
    (split : m.changes request (request.layout root) = before ++ .marker :: later) :
    later = [] ∧ ∃ performed unfinished result v',
      m = .entered (performed ++ [.build]) .done ∧ result.code = 0 ∧
      (workshop start respond).Comes request root w
        (.answered performed .build unfinished (.ok result)) v' ∧
      (Moment.answered performed .build unfinished (.ok result)).changes request
        (request.layout root) = before ∧
      ∃ handle, v'.files.createFile start (request.layout root).marker = .ok (handle, v.files) := by
  -- once it is made no step is left, and so no act follows
  induction h generalizing later with
  | begins => simp [Moment.changes] at split
  | @prepares performed step _ _ _ entered unfinished prepared ih =>
    rw [Moment.changes_prepared] at split
    obtain ⟨between, first, rfl⟩ | ⟨between, rfl, rest⟩ := split_append split
    · obtain ⟨-, _, _, _, _, ⟨⟩, -⟩ := ih first
      exact absurd rfl unfinished
    · cases step <;> simp [Step.prelude, List.cons_eq_append_iff] at rest
  | @answers performed step unfinished _ _ _ prepared answered ih =>
    rw [Moment.changes_answered _ _ _ _ (.ok ())] at split
    obtain ⟨between, first, rfl⟩ | ⟨between, rfl, rest⟩ := split_append split
    · obtain ⟨-, _, _, _, _, ⟨⟩, -⟩ := ih first
    · simp [List.cons_eq_append_iff] at rest
  | @concludes performed step unfinished result v₁ next v₂ answered passed concluded ih =>
    rw [Moment.changes_concluded _ _ performed unfinished (.ok result)] at split
    obtain ⟨between, first, rfl⟩ | ⟨between, rfl, rest⟩ := split_append split
    · obtain ⟨-, _, _, _, _, ⟨⟩, -⟩ := ih first
    · cases step with
      | build =>
        obtain ⟨rfl, rfl⟩ : between = [] ∧ later = [] := by
          simpa [Step.coda, List.cons_eq_append_iff] using rest
        have isDone : next.val = .done := (settled_of_conclude concluded).1
        have succeeded : result.code = 0 := by simpa [CommandResult.passed] using passed
        exact ⟨rfl, performed, unfinished, result, v₁, by rw [isDone], succeeded, answered,
          (List.append_nil _).symm, (left_of_conclude concluded).2 rfl⟩
      | download | extract | bootstrap | done => simp [Step.coda] at rest

/-! ### Every build -/

variable (start respond)

/-- A build makes the directory to extract into. `after` tells what some changes leave, `before` are
the changes until then, `later` those that follow, and `out` is what the build ends with. -/
structure MakesParentDir (request : Request) (layout : Layout)
    (after : List Change → ρ × FileSystem π) (before later : List Change)
    (out : Except Failure Report) : Prop where
  /-- All that stood anywhere stays as it is. What is new are directories along the path. -/
  builds : (after before).2.Builds start layout.parentDir.Begins (after (before ++ [.parentDir])).2
  /-- The sources are extracted right after, unless the directory cannot be made; then the build
  stops. -/
  outcome :
    match ((after before).2.makeDirectories start layout.parentDir).1 with
    | .ok () => (after (before ++ [.parentDir])).2.isDirectory start layout.parentDir = true ∧
        later.head? = some (.command (call request layout .extract (by decide)))
    | .error cause => later = [] ∧ out = .error (.createDir layout.parentDir cause)

/-- A build makes the marker. -/
structure MakesMarker (request : Request) (layout : Layout)
    (after : List Change → ρ × FileSystem π) (before later : List Change)
    (out : Except Failure Report) : Prop where
  /-- The libraries were built right before, and that succeeded. -/
  built : ∃ earlier result, let made := call request layout .build (by decide)
    before = earlier ++ [.command made] ∧
      (respond made (after earlier).1 (after earlier).2).1 = .ok result ∧ result.code = 0
  /-- All but the marker stays as it is, and the marker is an empty file; or there is a device, and
  all stays as it is. -/
  empty : (∃ at_ g, g.contents = [] ∧
      (after before).2.Gains at_ g (after (before ++ [.marker])).2 ∧
      (after (before ++ [.marker])).2.stat start layout.marker = .ok (.file at_ g)) ∨
    ((after before).2.isDevice start layout.marker = true ∧
      (after (before ++ [.marker])).2 = (after before).2)
  /-- The build changes nothing more, and succeeds. -/
  last : later = [] ∧ ∃ report, out = .ok report

variable {start respond}

/-- The directory above the sources has a name of its own. -/
theorem parentDir_components (request : Request) (root : Path) :
    (request.layout root).parentDir.components ≠ [] := by
  have step : Path.IsStep parentName := ⟨by decide, by decide⟩
  have child : (request.layout root).parentDir = root.child parentName := by
    simp only [Request.layout]
  rw [child, Path.components_child step]
  simp

/-- A build that finds its marker has nothing to change. -/
theorem changes_of_marked (h : (workshop start respond).Comes request root w m v)
    (marked : w.files.isFile start (request.layout root).marker = true) :
    m.changes request (request.layout root) = [] := by
  -- a build has no more steps than remain, and here none does
  have short := h.length_le
  have none : (Step.detect w.files (workshop (γ := γ) (τ := τ) start respond).start
      (request.layout root)).remaining = 0 :=
    Step.remaining_eq_zero_iff.2 (Step.detect_eq_done_iff.2 marked)
  rw [none, Nat.le_zero, Nat.add_eq_zero_iff, List.length_eq_zero_iff,
    Step.remaining_eq_zero_iff] at short
  obtain ⟨performed, step⟩ := short
  cases m with
  | entered =>
    obtain rfl : _ = [] := performed
    rfl
  | prepared _ _ unfinished | answered _ _ unfinished => exact absurd step unfinished

/-- What is said of the directory to extract into holds of every build that has ended. -/
theorem makesParentDir {out : Except Failure Report}
    (comes : (workshop start respond).Comes request root w m v)
    (ends : (workshop start respond).Ends request root v m out) {before later : List Change}
    (split : m.changes request (request.layout root) = before ++ .parentDir :: later) :
    (∃ performed v',
      (workshop start respond).Comes request root w (.entered performed .extract) v' ∧
        left v' = Change.after start (request.layout root) respond (left w) before) ∧
    MakesParentDir start request (request.layout root)
      (Change.after start (request.layout root) respond (left w)) before later out := by
  obtain ⟨performed, v', entered, same, outcome⟩ := parentDir_of_comes comes split
  have found := same ▸ after_of_comes entered
  obtain ⟨builds, there⟩ :=
    v'.files.makeDirectories_builds start (request.layout root).parentDir
  refine ⟨⟨performed, v', entered, found⟩, ?_, ?_⟩
  all_goals
    rw [Change.after_concat, ← found]
  · exact builds
  · change match (v'.files.makeDirectories start (request.layout root).parentDir).1 with
      | .ok () => _
      | .error cause => _
    -- that the directory is there at last needs that its path names no other
    replace there := there (parentDir_components request root)
    dsimp only at outcome
    generalize (v'.files.makeDirectories start (request.layout root).parentDir).1 = made
      at outcome there
    obtain ⟨last, _, rfl⟩ | ⟨rfl, next⟩ := outcome
    · cases made with
      | error cause =>
        cases ends
        exact ⟨last, rfl⟩
      | ok => cases ends
    · exact ⟨there rfl, next⟩

/-- What is said of the marker holds of every build that has ended. -/
theorem makesMarker {out : Except Failure Report}
    (comes : (workshop start respond).Comes request root w m v)
    (ends : (workshop start respond).Ends request root v m out) {before later : List Change}
    (split : m.changes request (request.layout root) = before ++ .marker :: later) :
    MakesMarker start respond request (request.layout root)
      (Change.after start (request.layout root) respond (left w)) before later out := by
  obtain ⟨last, performed, unfinished, result, v', rfl, succeeded, answered, same, handle, made⟩ :=
    marker_of_comes comes split
  have found := same ▸ after_of_comes answered
  refine ⟨?_, ?_, last, ?_⟩
  · -- the answer was made on the files as the changes before it have left them
    subst same
    refine ⟨_, result, rfl, ?_, succeeded⟩
    cases answered with
    | @answers _ _ _ before _ _ prepared answered =>
      have told : (respond (call request (request.layout root) .build unfinished)
          (left before).1 (left before).2).1 = .ok result := congrArg Prod.fst answered
      rwa [after_of_comes prepared] at told
  · rw [Change.after_concat, ← found, Change.apply_marker _ _ _ made]
    obtain ⟨-, g, -, blank, -, gains, there⟩ | ⟨device, same, -⟩ :=
      FileSystem.createFile_cases made
    · exact .inl ⟨handle.at_, g, blank, gains, there⟩
    · exact .inr ⟨device, same⟩
  · cases ends with
    | done => exact ⟨_, rfl⟩

/-- **What a build changes.** Whatever the request, the root, the files and the runner are, and
whether the build succeeds or fails, the runner and the files are left as by the changes that were
made until its last moment, one after another. All but at most two of these are the commands that
were run, in their order. The build itself makes the directory to extract into when that step is
begun, right before the sources are extracted; if this cannot be done, nothing more is done. And it
makes the marker, right after the libraries were built; then it succeeds. With the directory, only
directories along its path are new, even if it could not be made; the marker is left an empty file,
or a device that stands in its place is left alone; and all else that stood anywhere stays as it was.
A build that finds its marker changes nothing. -/
theorem ensureBuilt_changes (start : Place) (respond : Responder π ρ) (request : Request)
    (root : Path) (w : World π (Bench γ τ ρ)) :
    let shop := workshop start respond
    let layout := request.layout root
    let after := Change.after start layout respond (left w)
    let whole := shop.ensureBuilt request root w
    ∃ (m : Moment) (changes : List Change),
      shop.Comes request root w m whole.2 ∧ m.changes request layout = changes ∧
      left whole.2 = after changes ∧
      whole.2.gear.calls.toList = w.gear.calls.toList ++ changes.filterMap Change.call? ∧
      (changes.filter Change.isOwn).Sublist [.parentDir, .marker] ∧
      (∀ before later, changes = before ++ .parentDir :: later →
        (∃ performed v, shop.Comes request root w (.entered performed .extract) v ∧
          left v = after before) ∧
        MakesParentDir start request layout after before later whole.1) ∧
      (∀ before later, changes = before ++ .marker :: later →
        MakesMarker start respond request layout after before later whole.1) ∧
      (w.files.isFile start layout.marker = true → changes = [] ∧ whole = (.ok ⟨[]⟩, w)) := by
  intro shop layout after whole
  have ended : shop.ensureBuilt request root w = whole := rfl
  obtain ⟨m, comes, ends⟩ := ensureBuilt_eq_iff.1 (Prod.eta whole ▸ ended)
  refine ⟨m, _, comes, rfl, after_of_comes comes, calls_of_changes comes, own_of_comes comes,
    fun _ _ => makesParentDir comes ends, fun _ _ => makesMarker comes ends, fun marked => ?_⟩
  exact ⟨changes_of_marked comes marked, Workshop.ensureBuilt_of_marked marked⟩

end Bench

end Orchestrator
