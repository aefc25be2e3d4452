import Orchestrator.Boost.Build
import Orchestrator.Proofs.FileSystem.Walks

namespace Orchestrator.Boost

/-!
# Products — what the steps of a build leave, and what is read from it

Nothing but the products of its steps tells how far a build has come. The loop over the steps does
not look at all of them: it knows which step comes after which. This file says what a look at the
files tells, and when it tells what the loop knows.

* `Step.hasProduct` — what a step should leave is there.
* `Step.detect_reaches_iff` — a build starts at a step or before it just if neither the product of
  that step nor that of a later one is there.
* `Step.next` — the step that the loop goes on with.
* `Step.Settled` — what the loop asks for before it goes on.
* `Step.detect_eq_next` — the files tell the next step as well, but for a marker that is a device.
-/

variable {π : Type} {fs : FileSystem π} {start : Place} {layout : Layout}

namespace Step

/-- What a step should leave is there: the sources as they are downloaded, their directory, the
build tool, the marker. -/
def hasProduct (fs : FileSystem π) (start : Place) (layout : Layout) : Step → Bool
  | download => fs.isFile start layout.tarball
  | extract => fs.isDirectory start layout.extractDir
  | bootstrap => fs.isFile start layout.b2
  | build => fs.isFile start layout.marker
  | done => false

/-- The step that the loop goes on with. The sources may have brought a build tool. -/
def next (fs : FileSystem π) (start : Place) (layout : Layout) : Step → Step
  | download => extract
  | extract => if fs.isFile start layout.b2 then build else bootstrap
  | bootstrap => build
  | build | done => done

/-- A step leaves what the loop asks for: its product, or a device where the marker belongs. A
device can be opened as a marker and is no file. -/
def Settled (fs : FileSystem π) (start : Place) (layout : Layout) (step : Step) : Prop :=
  step.hasProduct fs start layout = true ∨
    step = build ∧ fs.isDevice start layout.marker = true

theorem extract_behind_download : Step.extract.remaining < Step.download.remaining := by decide

theorem bootstrap_behind_extract : Step.bootstrap.remaining < Step.extract.remaining := by decide

theorem build_behind_extract : Step.build.remaining < Step.extract.remaining := by decide

theorem build_behind_bootstrap : Step.build.remaining < Step.bootstrap.remaining := by decide

theorem done_behind_build : Step.done.remaining < Step.build.remaining := by decide

end Step

/-! ### The layout of a request -/

/-- The sources of a version are in a directory that has a name. -/
theorem extractDir_ne_nil (request : Request) (root : Path) :
    (request.layout root).extractDir.bytes ≠ [] := by
  have joined {p q : Path} (named : q.bytes ≠ []) : (p.join q).bytes ≠ [] := by
    unfold Path.join
    split
    · exact named
    · split <;> simp [named]
  have below : (request.layout root).extractDir = root.join request.archiveRoot := by
    simp only [Request.layout]
  rw [below, Request.archiveRoot, Path.child]
  exact joined (joined (by simp [Path.ofString, Request.versionName, Text.encode]))

/-- A build tool is in the directory of the sources. -/
theorem isDirectory_extractDir_of_isFile_b2 {request : Request} {root : Path}
    (tool : fs.isFile start (request.layout root).b2 = true) :
    fs.isDirectory start (request.layout root).extractDir = true := by
  have child : (request.layout root).b2 = (request.layout root).extractDir.child "b2" := by
    simp only [Request.layout]
  rw [child] at tool
  exact FileSystem.isDirectory_of_isFile_child (extractDir_ne_nil request root) (by decide)
    (by decide) tool

namespace Step

/-! ### What the files tell -/

/-- Nothing is left to do just if the marker is a regular file. -/
theorem detect_eq_done_iff :
    detect fs start layout = done ↔ fs.isFile start layout.marker = true := by
  unfold detect
  split
  · simp [*]
  · split <;> split <;> simp_all

/-- **Where a build starts.** It starts at a step or before it just if the files have neither the
product of that step nor that of a later one. -/
theorem detect_reaches_iff {request : Request} {root : Path} {step : Step} :
    step.remaining ≤ (detect fs start (request.layout root)).remaining ↔
      ∀ later : Step, later.remaining ≤ step.remaining →
        later.hasProduct fs start (request.layout root) = false := by
  have bears := @isDirectory_extractDir_of_isFile_b2 π fs start request root
  have all : (∀ later : Step, later.remaining ≤ step.remaining →
      later.hasProduct fs start (request.layout root) = false) ↔
      ∀ later ∈ Step.all, later.remaining ≤ step.remaining →
        later.hasProduct fs start (request.layout root) = false :=
    ⟨fun h later _ => h later, fun h later => h later (by cases later <;> decide)⟩
  rw [all]
  simp only [Step.all, List.forall_mem_cons, hasProduct, detect]
  -- all that is asked of the files are four answers, and so both sides are tables over these
  generalize fs.isFile start (request.layout root).marker = marked
  generalize fs.isFile start (request.layout root).b2 = tool at bears ⊢
  generalize fs.isDirectory start (request.layout root).extractDir = sources at bears ⊢
  generalize fs.isFile start (request.layout root).tarball = ball
  clear all
  revert marked tool sources ball
  cases step <;> decide

/-- **The files tell what the loop knows.** After a step that left its product, the files tell the
step that the loop goes on with: if they have no marker too early, and if downloading does not leave
a directory of sources. -/
theorem detect_eq_next {request : Request} {root : Path} {step : Step}
    (unfinished : step ≠ done)
    (left : step.hasProduct fs start (request.layout root) = true)
    (unmarked : step ≠ build → fs.isFile start (request.layout root).marker = false)
    (fresh : step = download → fs.isDirectory start (request.layout root).extractDir = false) :
    detect fs start (request.layout root) = step.next fs start (request.layout root) := by
  cases step with
  | download =>
    simp only [hasProduct] at left
    simp [detect, next, unmarked, fresh, left]
  | extract =>
    simp only [hasProduct] at left
    cases tool : fs.isFile start (request.layout root).b2 <;>
      simp [detect, next, unmarked, left, tool]
  | bootstrap =>
    simp only [hasProduct] at left
    -- the tool lies in the directory of the sources, so that is there as well
    simp [detect, next, unmarked, left, isDirectory_extractDir_of_isFile_b2 left]
  | build => exact detect_eq_done_iff.2 left
  | done => exact absurd rfl unfinished

end Step

end Orchestrator.Boost
