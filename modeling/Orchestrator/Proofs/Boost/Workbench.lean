import Orchestrator.Bench
import Orchestrator.Proofs.Boost.Moments
import Orchestrator.Proofs.Simulation

namespace Orchestrator

/-!
# Workbenches — builds with a runner of any kind

A build on a bench prints on its console and has its commands run by a runner that may do anything
to the files and to a state of its own. It never sees what was printed.

* `Bench.workshop` — what a build on a bench works with.
* `Bench.calls_answer` — a command that is run is the last call of the runner.
* `Bench.Alike` — worlds that differ in their consoles at most.
* `Bench.follows_prepare`, `Bench.follows_conclude` — what a build does in such worlds is alike.
-/

open Boost

namespace Bench

variable {π γ τ ρ : Type}

/-- What a build on a bench works with. -/
def workshop (start : Place) (respond : Responder π ρ) : Workshop π (Bench γ τ ρ) :=
  ⟨start, runnerOf respond, print⟩

/-- The runner keeps the call of a command. -/
theorem calls_answer (start : Place) (respond : Responder π ρ) (call : Call)
    (w : World π (Bench γ τ ρ)) :
    ((workshop start respond).answer call w).2.gear.calls = w.gear.calls.push call := rfl

/-- The two worlds differ in what was printed, and in nothing else. -/
structure Alike (w v : World π (Bench γ τ ρ)) : Prop where
  files : w.files = v.files
  transcript : w.gear.transcript = v.gear.transcript
  calls : w.gear.calls = v.gear.calls
  runner : w.gear.runner = v.gear.runner

namespace Alike

variable {w v u : World π (Bench γ τ ρ)}

/-- A world is like itself. -/
theorem refl (w : World π (Bench γ τ ρ)) : Alike w w := ⟨rfl, rfl, rfl, rfl⟩

/-- Being alike goes both ways. -/
theorem symm (h : Alike w v) : Alike v w :=
  ⟨h.files.symm, h.transcript.symm, h.calls.symm, h.runner.symm⟩

/-- Worlds that are like the same one are like each other. -/
theorem trans (h : Alike w v) (h' : Alike v u) : Alike w u :=
  ⟨h.files.trans h'.files, h.transcript.trans h'.transcript, h.calls.trans h'.calls,
    h.runner.trans h'.runner⟩

end Alike

/-! ### What was printed is not seen -/

variable (start : Place) (respond : Responder π ρ) (layout : Layout)

/-- To print a line changes nothing that a build looks at. -/
theorem alike_print (line : String) (w : World π (Bench γ τ ρ)) : Alike (print line w) w :=
  ⟨rfl, rfl, rfl, rfl⟩

/-- Nor does printing lines. -/
theorem alike_printAll (lines : List String) (w : World π (Bench γ τ ρ)) :
    Alike ((workshop start respond).printAll lines w) w := by
  induction lines generalizing w with
  | nil => exact .refl w
  | cons line rest ih => exact (ih _).trans (alike_print line w)

/-- In worlds that are alike a command has the same answer, and leaves them alike. -/
theorem follows_answer (call : Call) :
    Action.Follows (Alike (γ := γ) (τ := τ)) ((workshop start respond).answer call)
      ((workshop start respond).answer call) := by
  rintro ⟨files, ⟨console, transcript, calls, runner⟩⟩ ⟨_, ⟨console', _, _, _⟩⟩
    ⟨rfl, rfl, rfl, rfl⟩
  exact ⟨_, _, _, rfl, rfl, ⟨rfl, rfl, rfl, rfl⟩⟩

/-- In worlds that are alike the same demands are met. -/
theorem follows_demand (test : FileSystem π → Bool) (failure : Failure) :
    Action.Follows (Alike (γ := γ) (τ := τ) (ρ := ρ)) (Workshop.demand test failure)
      (Workshop.demand test failure) := by
  intro w v alike
  unfold Workshop.demand
  rw [alike.files]
  split <;> exact ⟨_, _, _, rfl, rfl, alike⟩

/-- In worlds that are alike the build tool is there or not in both. -/
theorem follows_hasB2 :
    Action.Follows (Alike (γ := γ) (τ := τ)) ((workshop start respond).hasB2 layout)
      ((workshop start respond).hasB2 layout) := by
  intro w v alike
  unfold Workshop.hasB2
  rw [alike.files]
  exact ⟨_, _, _, rfl, rfl, alike⟩

/-- In worlds that are alike the directory above the sources is made alike. -/
theorem follows_makeParentDir :
    Action.Follows (Alike (γ := γ) (τ := τ)) ((workshop start respond).makeParentDir layout)
      ((workshop start respond).makeParentDir layout) := by
  intro w v alike
  unfold Workshop.makeParentDir
  rw [alike.files]
  split <;> exact ⟨_, _, _, rfl, rfl, { alike with files := rfl }⟩

/-- In worlds that are alike the marker is made alike. -/
theorem follows_makeMarker :
    Action.Follows (Alike (γ := γ) (τ := τ)) ((workshop start respond).makeMarker layout)
      ((workshop start respond).makeMarker layout) := by
  intro w v alike
  unfold Workshop.makeMarker
  rw [alike.files]
  split
  · exact ⟨_, _, _, rfl, rfl, { alike with files := rfl }⟩
  · exact ⟨_, _, _, rfl, rfl, alike⟩

/-- To print a line keeps worlds alike. -/
theorem follows_say (line : String) :
    Action.Follows (Alike (γ := γ) (τ := τ)) ((workshop start respond).say line)
      ((workshop start respond).say line) := by
  intro w v alike
  exact ⟨_, _, _, rfl, rfl, (alike_print line w).trans (alike.trans (alike_print line v).symm)⟩

/-- In worlds that are alike a step is ready in both or in neither. -/
theorem follows_ready (step : Step) :
    Action.Follows (Alike (γ := γ) (τ := τ)) ((workshop start respond).ready layout step)
      ((workshop start respond).ready layout step) := by
  cases step with
  | extract => exact follows_makeParentDir start respond layout
  | bootstrap => exact (follows_say start respond _).bind fun _ => follows_demand _ _
  | download | build | done => exact .pure _ _

/-- Whether the place of the build tool was printed before makes no difference. -/
theorem follows_prepare (told told' : Bool) (step : Step) :
    Action.Follows (Alike (γ := γ) (τ := τ)) ((workshop start respond).prepare layout told step)
      ((workshop start respond).prepare layout told' step) := by
  intro w v alike
  exact follows_ready start respond layout step _ _ <|
    (alike_printAll start respond _ w).trans
      (alike.trans (alike_printAll start respond _ v).symm)

/-- In worlds that are alike a step is concluded alike. -/
theorem follows_conclude (step : Step) (unfinished : step ≠ .done) :
    Action.Follows (Alike (γ := γ) (τ := τ))
      ((workshop start respond).conclude layout step unfinished)
      ((workshop start respond).conclude layout step unfinished) := by
  cases step with
  | download | bootstrap => exact (follows_demand _ _).bind fun _ => .pure _ _
  | extract =>
    refine (follows_demand _ _).bind fun _ => (follows_hasB2 start respond layout).bind ?_
    rintro (_ | _) <;> exact .pure _ _
  | build => exact (follows_makeMarker start respond layout).bind fun _ => .pure _ _
  | done => exact absurd rfl unfinished

/-! ### A bench for small builds -/

/-- A version of Boost that is built in the root. -/
def smallRequest : Request := ⟨1, 2, 3, "http://example/boost_1_2_3.tar.gz", .ofString "built"⟩

/-- Where it is built. -/
def smallRoot : Path := .ofString "/"

/-- Where its sources go. -/
def smallDir : Location := [Text.encode "boost", Text.encode "boost_1_2_3"]

/-- The sources are there, with the script that makes the build tool. -/
def scripted : FileSystem Unit :=
  ((FileSystem.empty.addDirectory (smallDir.take 1)).addDirectory smallDir).put
    (smallDir ++ [Text.encode "bootstrap.sh"]) (.file ⟨3, [], true, none⟩)

/-- The build tool is made as well. -/
def tooled : FileSystem Unit :=
  scripted.put (smallDir ++ [Text.encode "b2"]) (.file ⟨4, [], true, none⟩)

/-- The same version, with a device for a marker. -/
def nullRequest : Request := { smallRequest with builtFile := .ofString "/dev/null" }

/-- The build tool is made, and there is the device that takes everything. -/
def nullTooled : FileSystem Unit :=
  (tooled.put [Text.encode "dev"] (.directory 5)).put [Text.encode "dev", Text.encode "null"]
    (.device ⟨6, none, none⟩)

/-- A runner whose commands all end with the same exit code and leave the same files. -/
def leaving (left : FileSystem Unit) (code : Int) : Responder Unit Nat := fun _ count _ =>
  (.ok ⟨code, ""⟩, count + 1, left)

/-- A bench where nothing has happened yet, with some files. -/
def having (files : FileSystem Unit) : World Unit (Bench Unit Unit Nat) := ⟨files, .new () () 0⟩

/-- Only extracting changes files before its command is run. -/
theorem files_of_prepare {told : Bool} {step : Step} (other : step ≠ .extract)
    {w w' : World π (Bench γ τ ρ)} {out : Except Failure Unit}
    (h : (workshop start respond).prepare layout told step w = (out, w')) : w'.files = w.files := by
  obtain ⟨⟨-, printed⟩, -⟩ := Workshop.prepare_cases h
  rw [printed other]
  exact (alike_printAll start respond _ w).files

/-- With such a runner a build that has its sources finds the files that it began with or those that
the runner leaves, until it makes the marker. -/
theorem comes_leaving {left : FileSystem Unit} {code : Int} {request : Request} {root : Path}
    {w v : World Unit (Bench Unit Unit Nat)} {m : Moment}
    (extracted : (Step.detect w.files start (request.layout root)).remaining ≤ 2)
    (h : (workshop start (leaving left code)).Comes request root w m v) :
    m.step.remaining ≤ 2 ∧ (m.step ≠ .done → v.files = w.files ∨ v.files = left) := by
  -- every call leaves the same files, whatever it is for
  induction h with
  | begins detected =>
    subst detected
    exact ⟨extracted, fun _ => .inl (alike_printAll start _ _ w).files⟩
  | @prepares performed step v outcome v' entered unfinished prepared ih =>
    have late : step ≠ .extract := by
      rintro rfl
      exact absurd ih.1 (by simp [Moment.step, Step.remaining])
    refine ⟨ih.1, fun undone => ?_⟩
    rw [files_of_prepare _ _ _ late prepared]
    exact ih.2 undone
  | answers prepared answered ih =>
    refine ⟨ih.1, fun _ => .inr ?_⟩
    rw [← (Prod.mk.inj answered).2]
  | @concludes performed step unfinished result v later v' answered passed concluded ih =>
    have fewer := later.property
    refine ⟨by have := ih.1; simp only [Moment.step] at this ⊢; omega, fun more => ?_⟩
    -- only the last step touches a file after its command
    have : step ≠ .build := by
      rintro rfl
      exact more (Step.remaining_eq_zero_iff.1 (Nat.lt_one_iff.1 fewer))
    rw [(Workshop.settled_of_conclude concluded).2.2.2 this]
    exact ih.2 unfinished

end Bench

end Orchestrator
