import Orchestrator.Proofs.Boost.Reasons
import Orchestrator.Proofs.Boost.Workbench

namespace Orchestrator

/-!
# Retries — what a build does after a command that failed

A command may fail and leave something behind all the same: a part of a download, some of the
sources, a build tool that does not work. Only the files tell how far a build has come, so what lies
where the product of a step belongs counts as that product, whoever left it there.

* `Workshop.retry_starts_iff` — after a command that failed, the next build starts at its step or
  before it just if no product of that step or of a later one is there.
* `Bench.retry_skips_partial_download` — a part of a download is taken for the whole.
-/

open Boost Workshop

namespace Boost.Workshop

variable {π ω ω' : Type} {request : Request} {root : Path}

/-- **Where a retry starts.** A build that stopped because the command of a step did not succeed ran
that command last. The next build on the files that it left, whatever runs its commands, starts
where the files tell: at that step or before it just if they have neither the product of that step
nor that of a later one. -/
theorem retry_starts_iff {shop : Workshop π ω} {shop' : Workshop π ω'} {step : Step}
    {unfinished : step ≠ .done} {w w' : World π ω} {v : World π ω'}
    (refused : shop.ensureBuilt request root w = (.error (step.refusal unfinished), w'))
    (place : shop'.start = shop.start) (left : v.files = w'.files) :
    (∃ performed result before,
      shop.Comes request root w (.prepared performed step unfinished (.ok ())) before ∧
      shop.answer (call request (request.layout root) step unfinished) before = (.ok result, w') ∧
      result.code ≠ 0) ∧
    ∃ next v', shop'.Comes request root v (.entered [] next) v' ∧
      next = Step.detect w'.files shop.start (request.layout root) ∧
      (step.remaining ≤ next.remaining ↔ ∀ later : Step, later.remaining ≤ step.remaining →
        later.hasProduct w'.files shop.start (request.layout root) = false) := by
  constructor
  · obtain ⟨m, comes, ends⟩ := ensureBuilt_eq_iff.1 refused
    obtain ⟨performed, result, rfl, failed⟩ := ends.of_refusal comes
    cases comes with
    | answers prepared answered =>
      refine ⟨performed, result, _, prepared, answered, ?_⟩
      simpa [CommandResult.passed] using failed
  · refine ⟨_, _, .begins rfl, by rw [place, left], ?_⟩
    rw [place, left]
    exact Step.detect_reaches_iff

end Boost.Workshop

namespace Bench

theorem retry_starts_iff_nothingLeft :
    let shop : Workshop Unit (Bench Unit Unit Nat) := workshop .root (leaving .empty 4)
    let failed := shop.ensureBuilt smallRequest smallRoot (having .empty)
    failed.1 = .error .downloadFailed ∧
    ∃ next v, shop.Comes smallRequest smallRoot failed.2 (.entered [] next) v ∧
      Step.download.remaining ≤ next.remaining := by
  intro shop failed
  have refused : failed = (.error (Step.download.refusal (by decide)), failed.2) :=
    rfl
  obtain ⟨-, next, v, comes, -, starts⟩ :=
    retry_starts_iff refused (show shop.start = shop.start from rfl)
      (show failed.2.files = failed.2.files from rfl)
  refine ⟨by rw [refused]; rfl, next, v, comes, starts.2 fun later _ => ?_⟩
  have files : failed.2.files = .empty := rfl
  rw [files]
  cases later <;> decide +kernel

/-- A part of a download. -/
def partialDownload : FileSystem Unit :=
  FileSystem.empty.put [Text.encode smallRequest.tarballName]
    (.file ⟨1, Text.encode "part", false, none⟩)

/-- Downloading fails and leaves a part. The next build does not download again: it starts after the
step that failed, and extracts the part. -/
theorem retry_skips_partial_download :
    let shop : Workshop Unit (Bench Unit Unit Nat) := workshop .root (leaving partialDownload 4)
    let failed := shop.ensureBuilt smallRequest smallRoot (having .empty)
    failed.1 = .error .downloadFailed ∧
    ∃ v, shop.Comes smallRequest smallRoot failed.2 (.entered [] .extract) v ∧
      ¬Step.download.remaining ≤ Step.extract.remaining :=
  ⟨rfl, _, .begins (by decide +kernel), by decide⟩

end Bench

end Orchestrator
