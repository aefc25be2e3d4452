import Orchestrator.Proofs.Boost.Workbench

namespace Orchestrator

/-!
# Resuming — stopping and starting again is going on

A build that was interrupted knows nothing of the one before but the files. It does what that one
would still have done, since the files tell the step that the loop would have gone on with.

* `Workshop.Comes.of_entered` — a step that is begun follows one that came to its end.
* `Workshop.Comes.detect_eq_iff` — the files tell it, unless a device was opened as the marker.
* `Bench.comes_after` — a build that starts there comes to the moments that were left.
* `Bench.ensureBuilt_resumes` — and it ends as the one before would have.
* `Bench.not_resumes_nullMarked` — with a device for a marker, a build that is done begins anew.
-/

open Boost Workshop

namespace Boost.Workshop

variable {π ω : Type} {shop : Workshop π ω} {request : Request} {root : Path} {w w' : World π ω}

/-- A step that is not the first follows one that came to its end. -/
theorem Comes.of_entered {performed : List Step} {last next : Step}
    (h : shop.Comes request root w (.entered (performed ++ [last]) next) w') :
    ∃ unfinished result later before,
      shop.Comes request root w (.answered performed last unfinished (.ok result)) before ∧
      result.passed = true ∧ later.val = next ∧
      shop.conclude (request.layout root) last unfinished before = (.ok later, w') := by
  generalize whole : performed ++ [last] = all at h
  cases h with
  | begins detected => simp at whole
  | concludes answered passed concluded =>
    obtain ⟨rfl, same⟩ := List.append_inj' whole rfl
    obtain rfl := List.singleton_inj.1 same
    exact ⟨_, _, _, _, answered, passed, rfl, concluded⟩

/-- The last step of a build is the one that makes the marker. -/
theorem Comes.eq_done_iff {performed : List Step} {last next : Step}
    (h : shop.Comes request root w (.entered (performed ++ [last]) next) w') :
    next = .done ↔ last = .build := by
  obtain ⟨unfinished, _, _, _, _, _, rfl, concluded⟩ := h.of_entered
  rw [(settled_of_conclude concluded).1]
  cases last with
  | done => exact absurd rfl unfinished
  | extract =>
    rw [Step.next]
    split <;> simp
  | download | bootstrap | build => simp [Step.next]

/-- **The files tell the next step.** After every step that came to its end the files tell what the
loop goes on with, if they have no marker too early, and if downloading does not leave a directory
of sources. There is one exception: a device that was opened as the marker does not tell that all is
done. -/
theorem Comes.detect_eq_iff {performed : List Step} {last next : Step}
    (h : shop.Comes request root w (.entered (performed ++ [last]) next) w')
    (unmarked : next ≠ .done →
      w'.files.isFile shop.start (request.layout root).marker = false)
    (fresh : last = .download →
      w'.files.isDirectory shop.start (request.layout root).extractDir = false) :
    Step.detect w'.files shop.start (request.layout root) = next ↔
      ¬(last = .build ∧ w'.files.isDevice shop.start (request.layout root).marker = true) := by
  obtain ⟨unfinished, _, _, _, _, _, rfl, concluded⟩ := h.of_entered
  obtain ⟨next, settled, -⟩ := settled_of_conclude concluded
  constructor
  · -- a device is no file, so that the files do not tell the end
    rintro told ⟨built, device⟩
    rw [h.eq_done_iff.2 built, Step.detect_eq_done_iff, FileSystem.isFile_of_isDevice device] at told
    cases told
  · intro regular
    rw [next]
    refine Step.detect_eq_next unfinished (settled.resolve_right regular)
      (fun other => unmarked ?_) fresh
    exact fun isDone => other (h.eq_done_iff.1 isDone)

end Boost.Workshop

namespace Bench

variable {π γ τ ρ : Type} {start : Place} {respond : Responder π ρ} {request : Request}
  {root : Path} {w w' v v' : World π (Bench γ τ ρ)}

/-- A build that ends at a moment would have ended there after other steps as well. -/
theorem ends_after {m : Moment} {out : Except Failure Report} (alike : Alike v' v)
    (h : (workshop start respond).Ends request root v m out) (earlier : List Step) :
    (workshop start respond).Ends request root v' (m.after earlier)
      (out.map fun report => ⟨earlier ++ report.performed⟩) := by
  cases h with
  | done => exact .done
  | unready => exact .unready
  | unanswered => exact .unanswered
  | refused failed => exact .refused failed
  | @lacking performed step unfinished result failure passed lacks =>
    -- what is demanded at the end of a step is read from the files, and these are the same
    obtain ⟨out, t, t', lacks', lacks'', -⟩ := follows_conclude start respond (request.layout root)
      step unfinished v' v alike
    obtain ⟨rfl, -⟩ := Prod.mk.inj (lacks.symm.trans lacks'')
    obtain ⟨-, -, rfl⟩ := lack_of_conclude lacks'
    exact .lacking passed lacks'

/-- A build that is begun at the step that another one goes on with comes to the moments that the
other has left. -/
theorem comes_after {earlier : List Step} {next : Step}
    (comes : (workshop start respond).Comes request root w (.entered earlier next) w')
    (detected : Step.detect w'.files start (request.layout root) = next) {m : Moment}
    (h : (workshop start respond).Comes request root w' m v) :
    ∃ v', (workshop start respond).Comes request root w (m.after earlier) v' ∧ Alike v' v := by
  -- each round of the second build is one of the first, with other steps before it
  induction h with
  | begins detected' =>
    obtain rfl := detected.symm.trans detected'
    refine ⟨w', ?_, (alike_printAll start respond _ w').symm⟩
    rwa [Moment.after, List.append_nil]
  | @prepares performed step v₁ outcome v₂ entered unfinished prepared ih =>
    obtain ⟨v₁', entered', alike⟩ := ih
    -- what was done before decides only what is announced
    obtain ⟨out, t, t', prepared', prepared'', alike'⟩ := follows_prepare start respond
      (request.layout root) ((earlier ++ performed).contains .bootstrap)
      (performed.contains .bootstrap) step v₁' v₁ alike
    obtain ⟨rfl, rfl⟩ := Prod.mk.inj (prepared''.symm.trans prepared)
    exact ⟨t, entered'.prepares unfinished prepared', alike'⟩
  | @answers performed step unfinished v₁ answer v₂ prepared answered ih =>
    obtain ⟨v₁', ready, alike⟩ := ih
    obtain ⟨out, t, t', answered', answered'', alike'⟩ := follows_answer start respond
      (call request (request.layout root) step unfinished) v₁' v₁ alike
    obtain ⟨rfl, rfl⟩ := Prod.mk.inj (answered''.symm.trans answered)
    exact ⟨t, ready.answers answered', alike'⟩
  | @concludes performed step unfinished result v₁ later v₂ answered passed concluded ih =>
    obtain ⟨v₁', ran, alike⟩ := ih
    obtain ⟨out, t, t', concluded', concluded'', alike'⟩ := follows_conclude start respond
      (request.layout root) step unfinished v₁' v₁ alike
    obtain ⟨rfl, rfl⟩ := Prod.mk.inj (concluded''.symm.trans concluded)
    refine ⟨t, ?_, alike'⟩
    have entered := ran.concludes passed concluded'
    rwa [List.append_assoc] at entered

/-- **When stopping and starting again is going on.** Let there be no marker before the build makes
one, and let downloading not leave a directory of sources. After every step that comes to its end,
the files tell the step that the build goes on with, just if it was not the last step with a device
at the place of the marker. Where they do, a build that was stopped there and is started again does
what was left, moment by moment; it ends as the build would have ended, and leaves the same behind
but for what was printed. -/
theorem ensureBuilt_resumes
    (unmarked : ∀ performed step v,
      (workshop start respond).Comes request root w (.entered performed step) v → step ≠ .done →
      v.files.isFile start (request.layout root).marker = false)
    (fresh : ∀ performed step v,
      (workshop start respond).Comes request root w (.entered (performed ++ [.download]) step) v →
      v.files.isDirectory start (request.layout root).extractDir = false)
    {performed : List Step} {last next : Step}
    (comes : (workshop start respond).Comes request root w (.entered (performed ++ [last]) next)
      w') :
    let shop := workshop start respond
    let whole := shop.ensureBuilt request root w
    let again := shop.ensureBuilt request root w'
    (Step.detect w'.files start (request.layout root) = next ↔
      ¬(last = .build ∧ w'.files.isDevice start (request.layout root).marker = true)) ∧
    (next = .done ↔ last = .build) ∧
    (Step.detect w'.files start (request.layout root) = next →
      (∀ m v, shop.Comes request root w' m v →
        ∃ v', shop.Comes request root w (m.after (performed ++ [last])) v' ∧ Alike v' v) ∧
      whole.1 = again.1.map (fun report => ⟨(performed ++ [last]) ++ report.performed⟩) ∧
      Alike whole.2 again.2) := by
  intro shop whole again
  have told := comes.detect_eq_iff (unmarked _ _ _ comes) (by rintro rfl; exact fresh _ _ _ comes)
  refine ⟨told, comes.eq_done_iff, fun detected => ⟨fun m v => comes_after comes detected, ?_⟩⟩
  -- the build that is started again ends somewhere, and the other one ends there too
  obtain ⟨m, comes', ends⟩ := ensureBuilt_eq_iff.1 (rfl : again = (again.1, again.2))
  obtain ⟨v', onward, alike⟩ := comes_after comes detected comes'
  have same : whole = (_, v') := ensureBuilt_eq_iff.2 ⟨_, onward, ends_after alike ends _⟩
  rw [same]
  exact ⟨rfl, alike⟩

/-! ### With a runner that leaves what it is told -/

section Leaving

variable {left : FileSystem Unit} {code : Int} {u v : World Unit (Bench Unit Unit Nat)}
  {performed : List Step} {step : Step}

/-- Where neither the files in the beginning nor those that the runner leaves have a marker, there
is none before the end. -/
theorem unmarked_leaving
    (extracted : (Step.detect u.files start (request.layout root)).remaining ≤ 2)
    (before : u.files.isFile start (request.layout root).marker = false)
    (behind : left.isFile start (request.layout root).marker = false)
    (entered : (workshop start (leaving left code)).Comes request root u (.entered performed step) v)
    (undone : step ≠ .done) : v.files.isFile start (request.layout root).marker = false := by
  rcases (comes_leaving start extracted entered).2 undone with same | same <;> rw [same]
  · exact before
  · exact behind

/-- A build that has its sources does not download. -/
theorem fresh_leaving
    (extracted : (Step.detect u.files start (request.layout root)).remaining ≤ 2)
    (entered : (workshop start (leaving left code)).Comes request root u
      (.entered (performed ++ [.download]) step) v) :
    v.files.isDirectory start (request.layout root).extractDir = false := by
  obtain ⟨_, _, _, _, answered, -⟩ := entered.of_entered
  exact absurd (comes_leaving start extracted answered).1 (by simp [Moment.step, Step.remaining])

end Leaving

/-- A build that was stopped when its build tool was made does what was left: it builds. -/
theorem ensureBuilt_resumes_scripted :
    let shop : Workshop Unit (Bench Unit Unit Nat) := workshop .root (leaving tooled 0)
    let made := shop.work smallRequest (smallRequest.layout smallRoot) .bootstrap (by decide)
      (shop.prepare (smallRequest.layout smallRoot) false .bootstrap
        (shop.printAll (opening (smallRequest.layout smallRoot) .bootstrap) (having scripted))).2
    let whole := shop.ensureBuilt smallRequest smallRoot (having scripted)
    let again := shop.ensureBuilt smallRequest smallRoot made.2
    shop.Comes smallRequest smallRoot (having scripted) (.entered [.bootstrap] .build) made.2 ∧
    Step.detect made.2.files .root (smallRequest.layout smallRoot) = .build ∧
    (∀ m v, shop.Comes smallRequest smallRoot made.2 m v →
      ∃ v', shop.Comes smallRequest smallRoot (having scripted) (m.after [.bootstrap]) v' ∧
        Alike v' v) ∧
    again.1 = .ok ⟨[.build]⟩ ∧ whole.1 = .ok ⟨[.bootstrap, .build]⟩ ∧
    Alike whole.2 again.2 := by
  intro shop made whole again
  have comes : shop.Comes smallRequest smallRoot (having scripted)
      (.entered ([] ++ [.bootstrap]) .build) made.2 :=
    @Workshop.Comes.concludes _ _ shop smallRequest smallRoot (having scripted) [] .bootstrap
      (by decide) ⟨0, ""⟩ _ ⟨.build, by decide⟩ made.2
      (.answers (.prepares (.begins (by decide +kernel)) (by decide) rfl) rfl) rfl rfl
  obtain ⟨told, -, resumes⟩ := ensureBuilt_resumes
    (fun _ _ _ entered =>
      unmarked_leaving (by decide +kernel) (by decide +kernel) (by decide +kernel) entered)
    (fun _ _ _ entered => fresh_leaving (by decide +kernel) entered) comes
  have detected := told.2 (by decide)
  obtain ⟨moments, same, alike⟩ := resumes detected
  have ended : again.1 = .ok ⟨[.build]⟩ := ok_of_toOption (by decide +kernel)
  rw [show shop.ensureBuilt smallRequest smallRoot made.2 = again from rfl, ended] at same
  exact ⟨comes, detected, moments, ended, same, alike⟩

/-- A build with a device for its marker opens it, and is done. The files do not tell this: the same
build that is started again performs a step where nothing was left to do. -/
theorem not_resumes_nullMarked :
    let shop : Workshop Unit (Bench Unit Unit Nat) := workshop .root (leaving nullTooled 0)
    let layout := nullRequest.layout smallRoot
    let whole := shop.ensureBuilt nullRequest smallRoot (having nullTooled)
    (∀ performed step v,
      shop.Comes nullRequest smallRoot (having nullTooled) (.entered performed step) v →
      step ≠ .done → v.files.isFile .root layout.marker = false) ∧
    (∀ performed step v,
      shop.Comes nullRequest smallRoot (having nullTooled)
        (.entered (performed ++ [.download]) step) v →
      v.files.isDirectory .root layout.extractDir = false) ∧
    shop.Comes nullRequest smallRoot (having nullTooled) (.entered [.build] .done) whole.2 ∧
    Step.detect whole.2.files .root layout ≠ .done ∧
    (shop.ensureBuilt nullRequest smallRoot whole.2).1 = .ok ⟨[.build]⟩ := by
  intro shop layout whole
  refine ⟨fun _ _ _ entered =>
      unmarked_leaving (by decide +kernel) (by decide +kernel) (by decide +kernel) entered,
    fun _ _ _ entered => fresh_leaving (by decide +kernel) entered, ?_, by decide +kernel,
    ok_of_toOption (by decide +kernel)⟩
  -- the build ends well, and so it came to its end
  have built : whole.1 = .ok ⟨[.build]⟩ := ok_of_toOption (by decide +kernel)
  obtain ⟨m, comes, ends⟩ := ensureBuilt_eq_iff.1 (Prod.ext built rfl : whole = (_, whole.2))
  cases ends with
  | done => exact comes

end Bench

end Orchestrator
