import Orchestrator.Proofs.Boost.Moments

namespace Orchestrator.Boost

/-!
# Reasons — why a build stopped

A build that fails gives one reason. It tells the step that the build stopped at, and whether the
command of this step was run and how it ended.

* `Stopped` — a reason fits a moment.
* `Workshop.Ends.stopped` — a build stops for a reason that fits the moment it ends at.
* `Workshop.Ends.of_refusal` — one that stops since a command did not succeed has just run it.
-/

/-- What the command of the step was answered, if it was run. -/
def Moment.answer? : Moment → Option (Except Fault CommandResult)
  | entered _ _ | prepared _ _ _ _ => none
  | answered _ _ _ answer => some answer

/-- The reason that a build stopped for tells the step, and how far it has come. -/
structure Stopped (m : Moment) (failure : Failure) : Prop where
  step : ∀ step, failure.step? = some step → step = m.step
  unready : failure.isUnready = true ↔ m.answer? = none
  refused : failure.isRefusal = true ↔ ∃ result, m.answer? = some (.ok result) ∧ result.code ≠ 0
  lacking : failure.isLack = true ↔ ∃ result, m.answer? = some (.ok result) ∧ result.code = 0
  fault : ∀ fault, failure = .runner fault ↔ m.answer? = some (.error fault)

/-- Every answer to the command of a step has its kind of reasons. -/
theorem Stopped.of_answer {m : Moment} {failure : Failure}
    (step : ∀ step, failure.step? = some step → step = m.step)
    (reason : match m.answer? with
      | none => failure.isUnready = true
      | some (.error fault) => failure = .runner fault
      | some (.ok result) =>
        if result.code = 0 then failure.isLack = true else failure.isRefusal = true) :
    Stopped m failure := by
  -- no failure is of two kinds
  rcases answer : m.answer? with _ | ⟨fault | result⟩
  all_goals
    rw [answer] at reason
    dsimp only at reason
  · refine ⟨step, ?_, ?_, ?_, ?_⟩ <;>
      cases failure <;> simp_all [Failure.isUnready, Failure.isRefusal, Failure.isLack]
  · subst reason
    refine ⟨step, ?_, ?_, ?_, ?_⟩ <;>
      simp [answer, Failure.isUnready, Failure.isRefusal, Failure.isLack, eq_comm]
  · by_cases code : result.code = 0
    all_goals
      simp only [code, if_true, if_false] at reason
      refine ⟨step, ?_, ?_, ?_, ?_⟩ <;>
        cases failure <;> simp_all [Failure.isUnready, Failure.isRefusal, Failure.isLack]

namespace Workshop

variable {π ω : Type} {shop : Workshop π ω} {request : Request} {root : Path}
  {w w' : World π ω} {m : Moment}

/-- A build that fails stops at a step, and for a reason that fits. -/
theorem Ends.stopped {failure : Failure} (ends : shop.Ends request root w' m (.error failure))
    (comes : shop.Comes request root w m w') : m.step ≠ .done ∧ Stopped m failure := by
  -- each way to stop has failures of its own kind, and these name the step
  generalize stopped : Except.error failure = out at ends
  cases ends with
  | done => cases stopped
  | @unready performed step unfinished =>
    obtain ⟨⟩ := stopped
    obtain _ | ⟨_, _, prepared⟩ := comes
    obtain ⟨unready, place⟩ := (prepare_cases prepared).2 _ rfl
    exact ⟨unfinished, .of_answer (by simp [place, Moment.step]) unready⟩
  | @unanswered performed step unfinished fault =>
    obtain ⟨⟩ := stopped
    exact ⟨unfinished, .of_answer (by simp [Failure.step?]) rfl⟩
  | @refused performed step unfinished result failed =>
    obtain ⟨⟩ := stopped
    have code : result.code ≠ 0 := by simpa [CommandResult.passed] using failed
    have kind := step.isRefusal_refusal unfinished
    refine ⟨unfinished, .of_answer (by simp [Moment.step]) ?_⟩
    simp [Moment.answer?, code, kind]
  | @lacking performed step unfinished result failure passed lacks =>
    obtain ⟨⟩ := stopped
    have code : result.code = 0 := by simpa [CommandResult.passed] using passed
    obtain ⟨lack, place, -⟩ := lack_of_conclude lacks
    refine ⟨unfinished, .of_answer (by simp [place, Moment.step]) ?_⟩
    simp [Moment.answer?, code, lack]

/-- A build that stops as a step does whose command did not succeed has just run that command. -/
theorem Ends.of_refusal {step : Step} {unfinished : step ≠ .done}
    (ends : shop.Ends request root w' m (.error (step.refusal unfinished)))
    (comes : shop.Comes request root w m w') :
    ∃ performed result, m = .answered performed step unfinished (.ok result) ∧
      result.passed = false := by
  -- the reason tells the step and that its command failed, and so it tells the moment
  obtain ⟨-, stopped⟩ := ends.stopped comes
  have place : step = m.step := stopped.step step (step.step?_refusal unfinished)
  obtain ⟨result, answer, code⟩ := stopped.refused.1 (step.isRefusal_refusal unfinished)
  cases m with
  | entered | prepared => cases answer
  | answered performed last unfinished' =>
    obtain rfl : step = last := place
    cases answer
    exact ⟨performed, result, rfl, by simpa [CommandResult.passed] using code⟩

end Workshop

end Orchestrator.Boost
