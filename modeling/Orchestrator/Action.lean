namespace Orchestrator

/-!
# Actions

An action works on a world, may fail, and leaves a world behind in either case.

* `Action` — a function from a world to an outcome and the world left behind.
* `Action.bind_apply`, `Action.pure_apply` — how a sequence of actions runs; nothing else is needed
  to follow a `do` block.
-/

/-- What comes out of an evaluation can be told by comparing options, which need not compare the
errors that might have come out. -/
theorem ok_of_toOption {ε α : Type} {out : Except ε α} {a : α} (h : out.toOption = some a) :
    out = .ok a := by
  cases out with
  | error => cases h
  | ok => rw [Option.some.inj h]

/-- A step that changes a world of type `σ` and ends with an error or a value. -/
def Action (σ ε α : Type) : Type := σ → Except ε α × σ

namespace Action

variable {σ ε ε' α β : Type}

/-- Run the first action and, if it did not fail, the one its value leads to. -/
@[inline] def andThen (first : Action σ ε α) (next : α → Action σ ε β) : Action σ ε β := fun s =>
  match first s with
  | (.ok a, after) => next a after
  | (.error e, after) => (.error e, after)

@[inline] instance : Monad (Action σ ε) where
  pure a := fun s => (.ok a, s)
  bind := andThen

/-- Fail and change nothing. -/
@[inline] def fail (e : ε) : Action σ ε α := fun s => (.error e, s)

/-- Tell an error in other terms. -/
@[inline] def mapError (f : ε → ε') (action : Action σ ε α) : Action σ ε' α := fun s =>
  match action s with
  | (.ok a, after) => (.ok a, after)
  | (.error e, after) => (.error (f e), after)

@[simp] theorem pure_apply (a : α) (s : σ) : (pure a : Action σ ε α) s = (.ok a, s) := rfl

theorem bind_apply (first : Action σ ε α) (next : α → Action σ ε β) (s : σ) :
    (first >>= next) s = match first s with
      | (.ok a, after) => next a after
      | (.error e, after) => (.error e, after) := rfl

theorem bind_of_ok {first : Action σ ε α} {s after : σ} {a : α} (h : first s = (.ok a, after))
    (next : α → Action σ ε β) : (first >>= next) s = next a after := by
  simp [bind_apply, h]

theorem bind_of_error {first : Action σ ε α} {s after : σ} {e : ε}
    (h : first s = (.error e, after)) (next : α → Action σ ε β) :
    (first >>= next) s = (.error e, after) := by
  simp [bind_apply, h]

@[simp] theorem fail_apply (e : ε) (s : σ) : (fail e : Action σ ε α) s = (.error e, s) := rfl

instance : LawfulMonad (Action σ ε) := LawfulMonad.mk' _
  (fun x => by
    funext s
    simp only [Functor.map, andThen]
    rcases x s with ⟨_ | _, _⟩ <;> rfl)
  (fun _ _ => rfl)
  (fun x _ _ => by
    funext s
    simp only [bind, andThen]
    rcases x s with ⟨_ | _, _⟩ <;> rfl)

end Action

end Orchestrator
