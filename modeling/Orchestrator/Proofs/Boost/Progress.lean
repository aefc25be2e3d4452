import Orchestrator.Proofs.Boost.Shape

namespace Orchestrator

/-!
# Progress — what a build tells while it goes on

A build prints a few lines: some before its first step, one before the first step that works with
the build tool, and one inside the step that makes this tool. Each is printed once, and together
they tell where the build began and which steps it entered.

* `Boost.progress` — the lines of a build, read off its first step and the steps it entered.
* `Boost.progress_concat` — one more step adds the lines that are printed for it.
* `Comes.exists_entered` — the steps on the way to a moment are those that the build entered.
* `Bench.printed_of_comes` — at every moment these lines were printed, and no others.
* `Bench.ensureBuilt_prints` — so it is at the end, however a build ends.
-/

open Boost Workshop

namespace Boost

/-! ### The lines of a build -/

/-- The lines of a build that began with a step and entered some: none if there was nothing to do,
else where the sources go, where they come from if they are not extracted, where the build tool is
if a step works with it, and the script if the build makes this tool. -/
def progress (layout : Layout) (first : Step) (entered : List Step) : List String :=
  if first = .done then []
  else
    ["boost root:" ++ layout.extractDir.display] ++
    (if first = .download ∨ first = .extract then
      ["boost tarball:" ++ layout.tarball.display] else []) ++
    (if .bootstrap ∈ entered ∨ .build ∈ entered then ["b2:" ++ layout.b2.display] else []) ++
    (if .bootstrap ∈ entered then ["bootstrap:" ++ layout.bootstrap.display] else [])

/-- Without any command only the start is printed. -/
theorem progress_nil (layout : Layout) (first : Step) :
    progress layout first [] = opening layout first := by
  cases first <;> rfl

/-- The lines tell which steps were entered, and nothing else about them. -/
theorem progress_congr {layout : Layout} {first : Step} {entered entered' : List Step}
    (same : ∀ step, step ≠ .done → (step ∈ entered ↔ step ∈ entered')) :
    progress layout first entered = progress layout first entered' := by
  simp only [progress, same .bootstrap nofun, same .build nofun]

/-- **One more step.** A step that comes after all those before it adds the lines about it. The line
about the build tool is left out if the step that makes this tool was among them. -/
theorem progress_concat {layout : Layout} {first step : Step} {begun : List Step}
    (undone : first ≠ .done) (unfinished : step ≠ .done)
    (after : ∀ earlier ∈ begun, step.remaining < earlier.remaining) :
    progress layout first (begun ++ [step]) =
      progress layout first begun ++ tidings layout (begun.contains .bootstrap) step := by
  have unbuilt : .build ∉ begun := fun mem =>
    unfinished (Step.remaining_eq_zero_iff.1 (Nat.lt_one_iff.1 (after _ mem)))
  cases step with
  | done => exact absurd rfl unfinished
  | download | extract => simp [progress, tidings, announcement, notice]
  | bootstrap =>
    have fresh : .bootstrap ∉ begun := fun mem => Nat.lt_irrefl _ (after _ mem)
    simp [progress, tidings, announcement, notice, undone, unbuilt, fresh]
  | build =>
    -- the tool is there, or the step before made it and told about it
    by_cases made : .bootstrap ∈ begun <;>
      simp [progress, tidings, announcement, notice, undone, unbuilt, made]

/-- The steps whose lines were printed: those that were made ready for, or could not be. -/
def Moment.begun : Moment → List Step
  | entered performed _ => performed
  | prepared performed step _ _ | answered performed step _ _ => performed ++ [step]

end Boost

namespace Boost.Workshop

variable {π ω : Type} {shop : Workshop π ω} {request : Request} {root : Path}
  {w v : World π ω} {m : Moment}

/-- The step that a build is at comes after all those before it. -/
theorem Comes.remaining_lt (h : shop.Comes request root w m v) :
    ∀ earlier ∈ m.performed, m.step.remaining < earlier.remaining := by
  induction h with
  | begins => nofun
  | prepares _ _ _ ih | answers _ _ ih => exact ih
  | @concludes performed step _ _ _ next _ _ _ _ ih =>
    intro earlier mem
    -- the step entered next has fewer behind it than the one just concluded
    rcases List.mem_append.1 mem with before | last
    · exact next.property.trans (ih earlier before)
    · obtain rfl := List.mem_singleton.1 last
      exact next.property

/-- A build that has come to a step had something to do when it began. -/
theorem Comes.undone (h : shop.Comes request root w m v) (unfinished : m.step ≠ .done) :
    Step.detect w.files shop.start (request.layout root) ≠ .done := by
  intro isDone
  have length := h.length_le
  rw [Step.remaining_eq_zero_iff.2 isDone] at length
  exact unfinished (Step.remaining_eq_zero_iff.1 (by omega))

/-- The steps on the way to a moment were entered. -/
theorem Comes.exists_entered (h : shop.Comes request root w m v) {step : Step}
    (mem : step ∈ m.trail) :
    ∃ performed v', shop.Comes request root w (.entered performed step) v' := by
  induction h with
  | begins detected =>
    obtain rfl := List.mem_singleton.1 mem
    exact ⟨_, _, .begins detected⟩
  | prepares _ _ _ ih | answers _ _ ih => exact ih mem
  | concludes answered passed concluded ih =>
    rcases List.mem_append.1 mem with before | last
    · exact ih before
    · obtain rfl := List.mem_singleton.1 last
      exact ⟨_, _, answered.concludes passed concluded⟩

/-- A build that ends has entered the steps on the way to its end, and no others. -/
theorem Ends.mem_trail_iff {out : Except Failure Report} (ends : shop.Ends request root v m out)
    (comes : shop.Comes request root w m v) {step : Step} :
    step ∈ m.trail ↔ ∃ performed v', shop.Comes request root w (.entered performed step) v' := by
  refine ⟨comes.exists_entered, ?_⟩
  rintro ⟨performed, v', entered⟩
  exact (ends.prefix_of_comes comes entered).subset (List.mem_concat_self)

/-- At the end of a build, the lines of all steps that it entered were printed. -/
theorem Ends.progress_eq {out : Except Failure Report} (ends : shop.Ends request root v m out)
    (layout : Layout) (first : Step) :
    progress layout first m.begun = progress layout first m.trail := by
  cases ends with
  | done =>
    refine progress_congr fun step undone => ?_
    simp [Moment.begun, Moment.trail, Moment.performed, Moment.step, undone]
  | unready | unanswered | refused | lacking => rfl

end Boost.Workshop

namespace Bench

variable {π γ τ ρ : Type} {start : Place} {respond : Responder π ρ} {request : Request}
  {root : Path} {w v : World π (Bench γ τ ρ)} {m : Moment}

/-! ### What is printed -/

/-- Lines as a console takes them. -/
def printed (lines : List String) : Bytes := lines.flatMap fun line => Text.encode (line ++ "\n")

/-- Lines that are printed after others stand behind them. -/
theorem printed_append (first second : List String) :
    printed (first ++ second) = printed first ++ printed second :=
  List.flatMap_append

/-- A line that is printed reaches the console with a newline behind it. -/
theorem taken_print (line : String) (w : World π (Bench γ τ ρ)) :
    (print line w).gear.console.taken.toList =
      w.gear.console.taken.toList ++ Text.encode (line ++ "\n") :=
  Array.toList_appendList

/-- The console takes the lines in order. -/
theorem taken_printAll (start : Place) (respond : Responder π ρ) (lines : List String)
    (w : World π (Bench γ τ ρ)) :
    ((workshop start respond).printAll lines w).gear.console.taken.toList =
      w.gear.console.taken.toList ++ printed lines := by
  induction lines generalizing w with
  | nil => exact (List.append_nil _).symm
  | cons line rest ih =>
    refine (ih (print line w)).trans ?_
    rw [taken_print, List.append_assoc]
    rfl

/-- **What was printed so far.** At every moment of a build, the console has taken the lines of the
steps that were begun, and nothing else. -/
theorem printed_of_comes (h : (workshop start respond).Comes request root w m v) :
    v.gear.console.taken.toList = w.gear.console.taken.toList ++
      printed (progress (request.layout root)
        (Step.detect w.files start (request.layout root)) m.begun) := by
  induction h with
  | begins detected =>
    subst detected
    rw [taken_printAll, Moment.begun, progress_nil]
    rfl
  | @prepares performed step v outcome v' entered unfinished prepared ih =>
    obtain ⟨⟨lines, -⟩, -⟩ := prepare_cases prepared
    rw [lines, taken_printAll, ih, List.append_assoc, ← printed_append]
    -- getting ready is the one act that prints, and it prints what the step adds
    refine congrArg (fun lines => _ ++ printed lines) (Eq.symm ?_)
    exact progress_concat (entered.undone unfinished) unfinished entered.remaining_lt
  | answers prepared answered ih =>
    obtain ⟨-, rfl⟩ := Prod.mk.inj answered
    exact ih
  | concludes answered passed concluded ih =>
    rw [(settled_of_conclude concluded).2.2.1]
    exact ih

/-- **The lines tell where the build is.** Whatever the request, the files and the runner are, and
however a build ends, it has printed the lines that go with its first step and the steps that it
entered, each of them once and in this order, and nothing else. A build that succeeds entered the
steps that it reports; one that fails entered the step that the reason tells last, also if this step
was not made ready for. -/
theorem ensureBuilt_prints (start : Place) (respond : Responder π ρ) (request : Request)
    (root : Path) (w : World π (Bench γ τ ρ)) :
    let shop := workshop start respond
    let layout := request.layout root
    let first := Step.detect w.files start layout
    let whole := shop.ensureBuilt request root w
    ∃ entered : List Step,
      (∀ step, step ∈ entered ↔
        ∃ performed v, shop.Comes request root w (.entered performed step) v) ∧
      whole.2.gear.console.taken.toList =
        w.gear.console.taken.toList ++ printed (progress layout first entered) ∧
      match whole.1 with
      | .ok report => entered = report.performed ++ [.done]
      | .error failure => ∀ step, failure.step? = some step → entered.getLast? = some step := by
  intro shop layout first whole
  have ended : shop.ensureBuilt request root w = whole := rfl
  clear_value whole
  obtain ⟨out, w'⟩ := whole
  obtain ⟨m, comes, ends⟩ := ensureBuilt_eq_iff.1 ended
  refine ⟨m.trail, fun step => ends.mem_trail_iff comes, ?_, ?_⟩
  · rw [← ends.progress_eq]
    exact printed_of_comes comes
  · cases out with
    | error failure =>
      intro step tells
      obtain rfl := (ends.stopped comes).2.step step tells
      exact List.getLast?_concat
    | ok report =>
      cases ends with
      | done => rfl

end Bench

end Orchestrator
