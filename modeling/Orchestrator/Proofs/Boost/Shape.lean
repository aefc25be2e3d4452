import Mathlib.Data.List.Chain
import Orchestrator.Proofs.Boost.Reasons
import Orchestrator.Proofs.Boost.Resume

namespace Orchestrator

/-!
# The shape of a build — its steps, its calls, and why it stopped

Whatever the files are and whatever the commands do, a build is a short walk along the steps. It has
one command run for each, and the reason that it stops for tells how far the last step has come.

* `Step.Before` — the steps that may come one right after the other.
* `Comes.isChain`, `Comes.length_le` — the steps of a build are such a chain, and a short one.
* `Ends.prefix_of_comes` — a build has no moments but those on the way to its end.
* `Comes.succeeded` — the command of every step that was performed succeeded.
* `Bench.calls_of_comes` — one call for each step whose command was run.
* `Bench.ensureBuilt_shape` — all of this, for every build.
-/

open Boost Workshop

namespace Boost

/-! ### Steps and moments -/

/-- One step may come right after another. Only making the build tool is ever left out. -/
inductive Step.Before : Step → Step → Prop where
  | extract : Before download extract
  | bootstrap : Before extract bootstrap
  | tooled : Before extract build
  | build : Before bootstrap build
  | done : Before build done

/-- A step that is not the last comes before the one that is detected behind it. -/
theorem Step.before_next {π : Type} {fs : FileSystem π} {start : Place} {layout : Layout}
    {step : Step} (unfinished : step ≠ .done) : step.Before (step.next fs start layout) := by
  cases step with
  | download => exact .extract
  | extract =>
    rw [Step.next]
    split
    · exact .tooled
    · exact .bootstrap
  | bootstrap => exact .build
  | build => exact .done
  | done => exact absurd rfl unfinished

namespace Moment

/-- The steps that were performed before. -/
def performed : Moment → List Step
  | entered performed _ | prepared performed _ _ _ | answered performed _ _ _ => performed

/-- The steps that were entered, the one that the build is at included. -/
def trail (m : Moment) : List Step := m.performed ++ [m.step]

/-- The steps whose commands were run. -/
def called (m : Moment) : List Step :=
  match m.answer? with
  | none => m.performed
  | some _ => m.trail

/-- The passes of the loop that were begun. -/
def passes (m : Moment) : Nat := m.trail.countP (· ≠ .done)

/-- How many acts came before. -/
def position : Moment → Nat
  | entered performed _ => 3 * performed.length
  | prepared performed _ _ _ => 3 * performed.length + 1
  | answered performed _ _ _ => 3 * performed.length + 2

end Moment

end Boost

namespace Boost.Workshop

variable {π ω : Type} {shop : Workshop π ω} {request : Request} {root : Path}
  {w w' v v' : World π ω} {m m' : Moment}

/-! ### The steps of a build -/

/-- The steps that a build enters come one right after the other, from the one that the files
tell on. -/
theorem Comes.isChain (h : shop.Comes request root w m v) :
    m.trail.head? = some (Step.detect w.files shop.start (request.layout root)) ∧
      m.trail.IsChain Step.Before := by
  induction h with
  | begins detected => exact ⟨congrArg some detected.symm, .singleton _⟩
  | prepares _ _ _ ih | answers _ _ ih => exact ih
  | @concludes performed step unfinished _ _ next _ _ _ concluded ih =>
    obtain ⟨first, chain⟩ := ih
    have onward : step.Before next.val := by
      rw [(settled_of_conclude concluded).1]
      exact Step.before_next unfinished
    refine ⟨?_, ?_⟩
    · rw [← first]
      cases performed <;> rfl
    · -- the chain goes on from its last step, which is the one that was concluded
      refine chain.append (.singleton _) fun last isLast other isOther => ?_
      obtain rfl : step = last := by simpa [Moment.trail, Moment.step] using isLast
      obtain rfl : next.val = other := by simpa [Moment.step] using isOther
      exact onward

/-- Every step takes one off what remains at most. -/
theorem Comes.length_le (h : shop.Comes request root w m v) :
    m.performed.length + m.step.remaining ≤
      (Step.detect w.files shop.start (request.layout root)).remaining := by
  induction h with
  | begins detected =>
    rw [← detected]
    exact Nat.le_of_eq (Nat.zero_add _)
  | prepares _ _ _ ih | answers _ _ ih => exact ih
  | @concludes performed step _ _ _ next _ _ _ _ ih =>
    -- every step that is concluded leaves fewer to be done
    have fewer := next.property
    simp only [Moment.performed, Moment.step, List.length_append, List.length_singleton] at ih ⊢
    omega

/-- There are no more passes than steps that remained. -/
theorem Comes.passes_le (h : shop.Comes request root w m v) :
    m.passes ≤ (Step.detect w.files shop.start (request.layout root)).remaining := by
  have length := h.length_le
  have undone : m.performed.countP (· ≠ .done) ≤ m.performed.length := List.countP_le_length
  unfold Moment.passes Moment.trail
  rw [List.countP_append, List.countP_singleton]
  -- the step that the build is at is a pass of its own unless nothing is left to do
  by_cases isDone : m.step = .done
  · rw [if_neg (by simp [isDone])]
    omega
  · have more : m.step.remaining ≠ 0 := fun none => isDone (Step.remaining_eq_zero_iff.1 none)
    rw [if_pos (by simp [isDone])]
    omega

/-- The command of every step that was performed was run, and succeeded. -/
theorem Comes.succeeded (h : shop.Comes request root w m v) {earlier later : List Step}
    {step : Step} (split : m.performed = earlier ++ step :: later) :
    ∃ unfinished result before,
      shop.Comes request root w (.answered earlier step unfinished (.ok result)) before ∧
        result.code = 0 := by
  induction h generalizing later with
  | begins => simp [Moment.performed] at split
  | prepares _ _ _ ih | answers _ _ ih => exact ih split
  | @concludes performed last unfinished result before next _ answered passed _ ih =>
    -- it is the last one, or it was among those before
    rcases later.eq_nil_or_concat with rfl | ⟨init, other, rfl⟩
    · obtain ⟨rfl, same⟩ := List.append_inj' split rfl
      obtain rfl := List.singleton_inj.1 same
      refine ⟨unfinished, result, before, answered, ?_⟩
      simpa [CommandResult.passed] using passed
    · rw [List.concat_eq_append, ← List.cons_append, ← List.append_assoc] at split
      exact ih (List.append_inj' split rfl).1

/-- A build that is done has performed nothing if there was nothing to do; else it has built the
libraries last. -/
theorem Comes.performed_of_done {performed : List Step}
    (h : shop.Comes request root w (.entered performed .done) v) :
    let first := Step.detect w.files shop.start (request.layout root)
    (performed = [] ↔ first = .done) ∧ (first ≠ .done → performed.getLast? = some .build) := by
  intro first
  have length : performed.length + 0 ≤ first.remaining := h.length_le
  have none : performed = [] ↔ first = .done := by
    constructor
    · rintro rfl
      have begins : some Step.done = some first := h.isChain.1
      exact (Option.some.inj begins).symm
    · intro isDone
      rw [Step.remaining_eq_zero_iff.2 isDone] at length
      exact List.eq_nil_of_length_eq_zero (Nat.le_zero.1 length)
  refine ⟨none, fun undone => ?_⟩
  rcases performed.eq_nil_or_concat with rfl | ⟨earlier, last, rfl⟩
  · exact absurd (none.1 rfl) undone
  · -- only the step that builds the libraries comes right before the end
    rw [List.concat_eq_append] at h ⊢
    obtain rfl := h.eq_done_iff.1 rfl
    exact List.getLast?_concat

/-! ### The one way that a build takes -/

/-- A build comes to one moment after so many acts. -/
theorem Comes.unique (h : shop.Comes request root w m v) (h' : shop.Comes request root w m' v')
    (same : m.position = m'.position) : m = m' ∧ v = v' := by
  -- the acts before were the same, and an act has one outcome
  induction h generalizing m' v' with
  | begins detected =>
    cases h' with
    | begins detected' =>
      obtain rfl := detected.symm.trans detected'
      exact ⟨rfl, rfl⟩
    | prepares | answers | concludes => simp [Moment.position] at same
  | prepares entered unfinished prepared ih =>
    cases h' with
    | prepares entered' unfinished' prepared' =>
      obtain ⟨⟨⟩, rfl⟩ := ih entered' (by simpa [Moment.position] using same)
      obtain ⟨rfl, rfl⟩ := Prod.mk.inj (prepared.symm.trans prepared')
      exact ⟨rfl, rfl⟩
    | begins | answers | concludes => simp only [Moment.position] at same; omega
  | answers prepared answered ih =>
    cases h' with
    | answers prepared' answered' =>
      obtain ⟨⟨⟩, rfl⟩ := ih prepared' (by simpa [Moment.position] using same)
      obtain ⟨rfl, rfl⟩ := Prod.mk.inj (answered.symm.trans answered')
      exact ⟨rfl, rfl⟩
    | begins | prepares | concludes => simp only [Moment.position] at same; omega
  | concludes answered passed concluded ih =>
    cases h' with
    | concludes answered' passed' concluded' =>
      have fewer := ih answered'
      simp only [Moment.position, List.length_append, List.length_singleton] at same fewer
      obtain ⟨⟨⟩, rfl⟩ := fewer (by omega)
      obtain ⟨same, rfl⟩ := Prod.mk.inj (concluded.symm.trans concluded')
      obtain rfl := Except.ok.inj same
      exact ⟨rfl, rfl⟩
    | begins => simp [Moment.position] at same
    | prepares | answers => simp only [Moment.position] at same; omega

/-- Every moment but the first comes right after another, at which the build did not end. -/
theorem Comes.predecessor (h : shop.Comes request root w m v) (later : 0 < m.position) :
    ∃ m' v', shop.Comes request root w m' v' ∧ m'.position + 1 = m.position ∧
      m'.trail <+: m.trail ∧ ∀ out, ¬shop.Ends request root v' m' out := by
  cases h with
  | begins => cases later
  | prepares entered unfinished prepared =>
    refine ⟨_, _, entered, rfl, List.prefix_rfl, ?_⟩
    rintro _ ⟨⟩
    exact unfinished rfl
  | answers prepared answered =>
    refine ⟨_, _, prepared, rfl, List.prefix_rfl, ?_⟩
    rintro _ ⟨⟩
  | concludes answered passed concluded =>
    refine ⟨_, _, answered, ?_, List.prefix_append _ _, ?_⟩
    · simp only [Moment.position, List.length_append, List.length_singleton]
      omega
    · -- it went on, so that it neither was refused nor lacked its marker
      intro out ends
      cases ends with
      | refused failed => simp [passed] at failed
      | lacking _ lacks => simp [concluded] at lacks

/-- A build has come to a moment after every smaller number of acts. -/
theorem Comes.earlier (h : shop.Comes request root w m v) {n : Nat} (le : n ≤ m.position) :
    ∃ m' v', shop.Comes request root w m' v' ∧ m'.position = n ∧ m'.trail <+: m.trail := by
  obtain ⟨gap, place⟩ := Nat.le.dest le
  clear le
  induction gap generalizing m v with
  | zero => exact ⟨m, v, h, place.symm, List.prefix_rfl⟩
  | succ gap ih =>
    obtain ⟨m₁, v₁, before, next, within, -⟩ := h.predecessor (by omega)
    obtain ⟨m', v', comes, place', within'⟩ := ih before (by omega)
    exact ⟨m', v', comes, place', within'.trans within⟩

/-- **The end is behind all moments.** A build that ends at a moment has entered no step that it had
not entered by then. -/
theorem Ends.prefix_of_comes {out : Except Failure Report} (ends : shop.Ends request root w' m out)
    (comes : shop.Comes request root w m w') (other : shop.Comes request root w m' v) :
    m'.trail <+: m.trail := by
  rcases Nat.lt_or_ge m.position m'.position with behind | before
  · -- the act after the last one would go on from a moment that the build ends at
    obtain ⟨m₁, v₁, beyond, place, -⟩ := other.earlier behind
    obtain ⟨m₀, v₀, last, next, -, goesOn⟩ := beyond.predecessor (by omega)
    obtain ⟨rfl, rfl⟩ := last.unique comes (by omega)
    exact absurd ends (goesOn out)
  · obtain ⟨m₁, v₁, comes', place, within⟩ := comes.earlier before
    obtain ⟨rfl, -⟩ := comes'.unique other place
    exact within

end Boost.Workshop

namespace Bench

variable {π γ τ ρ : Type} {start : Place} {respond : Responder π ρ} {request : Request}
  {root : Path} {w v : World π (Bench γ τ ρ)} {m : Moment}

/-! ### The calls of a build -/

/-- The calls are those of the steps, one for each and in their order. -/
abbrev CallsOf (request : Request) (layout : Layout) : List Step → List Call → Prop :=
  List.Forall₂ fun step made => ∃ unfinished, made = call request layout step unfinished

/-- Getting ready for a command runs none. -/
theorem calls_of_prepare {layout : Layout} {told : Bool} {step : Step} {out : Except Failure Unit}
    (h : (workshop start respond).prepare layout told step w = (out, v)) :
    v.gear.calls = w.gear.calls := by
  obtain ⟨⟨printed, -⟩, -⟩ := prepare_cases h
  rw [printed]
  exact (alike_printAll start respond _ w).calls

/-- **One call for each command.** At every moment of a build, the runner has had one call for each
step whose command was run, in the order of the steps. -/
theorem calls_of_comes (h : (workshop start respond).Comes request root w m v) :
    ∃ made, v.gear.calls.toList = w.gear.calls.toList ++ made ∧
      CallsOf request (request.layout root) m.called made := by
  induction h with
  | begins detected =>
    refine ⟨[], ?_, .nil⟩
    rw [List.append_nil, (alike_printAll start respond _ w).calls]
  | prepares entered unfinished prepared ih =>
    rw [calls_of_prepare prepared]
    exact ih
  | @answers performed step unfinished _ answer _ prepared answered ih =>
    obtain ⟨made, calls, fits⟩ := ih
    refine ⟨made ++ [call request (request.layout root) step unfinished], ?_,
      List.rel_append fits (.cons ⟨unfinished, rfl⟩ .nil)⟩
    -- an answer is where the one call of a step is made
    have left := congrArg (·.2.gear.calls.toList) answered
    simp only [calls_answer, Array.toList_push] at left
    rw [← left, calls, List.append_assoc]
  | concludes answered passed concluded ih =>
    rw [(settled_of_conclude concluded).2.2.1]
    exact ih

/-- **The shape of a build.** Whatever the request, the files and the runner are, a build comes to
one last moment. The steps that it entered come one right after the other, from the one that the
files tell on, in no more than four passes. The runner had one call for each step whose command was
run, with the command and the directory of that step, and the commands of all steps that were
performed succeeded. A build that succeeds reports the steps that it entered: none if there was
nothing left to do, and else the last of them builds the libraries. A build that fails stops at a
step, and the reason tells whether the command of this one was run and how it ended. -/
theorem ensureBuilt_shape (start : Place) (respond : Responder π ρ) (request : Request)
    (root : Path) (w : World π (Bench γ τ ρ)) :
    let shop := workshop start respond
    let layout := request.layout root
    let first := Step.detect w.files start layout
    let whole := shop.ensureBuilt request root w
    ∃ (m : Moment) (made : List Call),
      shop.Comes request root w m whole.2 ∧
      (∀ m' v, shop.Comes request root w m' v → m'.trail <+: m.trail) ∧
      m.trail.head? = some first ∧ m.trail.IsChain Step.Before ∧ m.passes ≤ 4 ∧
      whole.2.gear.calls.toList = w.gear.calls.toList ++ made ∧
      CallsOf request layout m.called made ∧
      (∀ earlier step later, m.performed = earlier ++ step :: later →
        ∃ unfinished result before,
          shop.Comes request root w (.answered earlier step unfinished (.ok result)) before ∧
            result.code = 0) ∧
      match whole.1 with
      | .ok report =>
        m = .entered report.performed .done ∧ (report.performed = [] ↔ first = .done) ∧
          (first ≠ .done → report.performed.getLast? = some .build)
      | .error failure => m.step ≠ .done ∧ Stopped m failure := by
  intro shop layout first whole
  have ended : shop.ensureBuilt request root w = whole := rfl
  clear_value whole
  obtain ⟨out, w'⟩ := whole
  obtain ⟨m, comes, ends⟩ := ensureBuilt_eq_iff.1 ended
  obtain ⟨made, calls, fits⟩ := calls_of_comes comes
  obtain ⟨begins, chain⟩ := comes.isChain
  have four : m.passes ≤ 4 := by
    refine comes.passes_le.trans ?_
    cases Step.detect w.files shop.start (request.layout root) <;> decide
  refine ⟨m, made, comes, fun m' v => ends.prefix_of_comes comes, begins, chain, four, calls,
    fits, fun earlier step later => comes.succeeded, ?_⟩
  cases out with
  | error failure => exact ends.stopped comes
  | ok report =>
    cases ends with
    | done => exact ⟨rfl, comes.performed_of_done⟩

end Bench

end Orchestrator
