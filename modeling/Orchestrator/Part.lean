import Orchestrator.Action

namespace Orchestrator

/-!
# Parts of a world

* `Part` — a world seen as one part and the rest of it.
* `Action.within` — an action on the part, done in the whole; the rest stays as it is.
-/

/-- A world `σ` falls into a part `γ` and a rest `δ`, and is put together from them again. -/
structure Part (σ γ δ : Type) where
  split : σ → γ × δ
  join : γ → δ → σ
  split_join : ∀ g d, split (join g d) = (g, d)
  join_split : ∀ s, join (split s).1 (split s).2 = s

namespace Part

variable {σ γ δ : Type} (p : Part σ γ δ)

/-- The part itself. -/
def get (s : σ) : γ := (p.split s).1

/-- What is not in the part. -/
def rest (s : σ) : δ := (p.split s).2

@[simp] theorem get_join (g : γ) (d : δ) : p.get (p.join g d) = g := by simp [get, p.split_join]

@[simp] theorem rest_join (g : γ) (d : δ) : p.rest (p.join g d) = d := by simp [rest, p.split_join]

@[simp] theorem join_get_rest (s : σ) : p.join (p.get s) (p.rest s) = s := p.join_split s

end Part

namespace Action

variable {σ γ δ ε α : Type}

/-- Do an action on a part of the world. -/
@[inline] def within (p : Part σ γ δ) (action : Action γ ε α) : Action σ ε α := fun s =>
  match p.split s with
  | (g, d) =>
    match action g with
    | (outcome, after) => (outcome, p.join after d)

theorem within_apply (p : Part σ γ δ) (action : Action γ ε α) (s : σ) :
    action.within p s = ((action (p.get s)).1, p.join (action (p.get s)).2 (p.rest s)) := rfl

end Action

end Orchestrator
