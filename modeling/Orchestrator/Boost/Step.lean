import Orchestrator.Boost.Request
import Orchestrator.FileSystem.Query

namespace Orchestrator.Boost

/-!
# Boost — how far a build has come

Nothing but the files themselves records how far a build has come, so a build that was interrupted
goes on at the first step whose product is missing.

* `Step` — what has to be done next, in the order in which it is done.
* `Step.detect` — the next step as the files tell it.
* `Step.remaining` — how many steps there are at most before the build is done.
-/

/-- What has to be done next. -/
inductive Step where
  /-- The sources are not here yet. -/
  | download
  /-- The sources are here and not extracted. -/
  | extract
  /-- The sources are extracted and the build tool is not made. -/
  | bootstrap
  /-- The build tool is made; the libraries are always built from here. -/
  | build
  /-- The marker is there and nothing is left to do. -/
  | done
  deriving DecidableEq, Repr

namespace Step

/-- The name of a step. -/
def name : Step → String
  | download => "need_download"
  | extract => "need_extract"
  | bootstrap => "need_bootstrap"
  | build => "need_build"
  | done => "done"

/-- How many steps there are at most before the build is done. -/
def remaining : Step → Nat
  | download => 4
  | extract => 3
  | bootstrap => 2
  | build => 1
  | done => 0

/-- The steps in order. -/
def all : List Step := [download, extract, bootstrap, build, done]

/-- The next step as the files tell it: done if the marker is a file, else the first step whose
product is missing. -/
def detect {π : Type} (fs : FileSystem π) (start : Place) (layout : Layout) : Step :=
  if fs.isFile start layout.marker then done
  else if !fs.isDirectory start layout.extractDir then
    if fs.isFile start layout.tarball then extract else download
  else if !fs.isFile start layout.b2 then bootstrap
  else build

theorem remaining_eq_zero_iff {s : Step} : s.remaining = 0 ↔ s = done := by
  cases s <;> simp [remaining]

end Step

end Orchestrator.Boost
