import Orchestrator.Action
import Orchestrator.Cause
import Orchestrator.Part
import Orchestrator.Text.Utf8

namespace Orchestrator

/-!
# Outlets — where text goes

An outlet takes bytes: a terminal, a file, a pipe. It may take fewer bytes than it is offered, may
be interrupted, may fail at any write or flush, and may work again afterwards.

* `Outlet` — what an outlet does when it is offered bytes or asked to pass them on.
* `Outlet.writeAll` — offer bytes again and again until all are taken or something fails.
* `Outlet.emit` — write a text and pass it on at once.
* `Channel` — an outlet together with all that it has taken so far.
* `Outlet.within` — an outlet of a part of the world, as an outlet of the whole.
-/

/-- What became of bytes that an outlet was offered. -/
inductive Offer where
  | took (count : Nat)
  | interrupted
  | failed (cause : Cause)
  deriving DecidableEq, Repr

/-- An outlet of a world `σ`. It is never interrupted for ever: `patience` bounds how often it is
interrupted in a row. -/
structure Outlet (σ : Type) where
  write : σ → Bytes → Offer × σ
  flush : Action σ Cause Unit
  patience : σ → Nat
  patience_lt : ∀ s bytes, (write s bytes).1 = .interrupted →
    patience (write s bytes).2 < patience s

namespace Outlet

variable {σ γ δ : Type}

/-- Offer bytes until all are taken. An interrupted offer is made again; an offer of which nothing
is taken is a failure. Nothing is offered when there are no bytes. -/
def writeAll (o : Outlet σ) (bytes : Bytes) : Action σ Cause Unit := fun s =>
  if bytes = [] then (.ok (), s)
  else
    match h : o.write s bytes with
    | (.took 0, after) => (.error .nothingTaken, after)
    | (.took (n + 1), after) => o.writeAll (bytes.drop (n + 1)) after
    | (.interrupted, after) =>
      have : o.patience after < o.patience s := by
        have := o.patience_lt s bytes (by rw [h])
        rwa [h] at this
      o.writeAll bytes after
    | (.failed cause, after) => (.error cause, after)
termination_by s => (bytes.length, o.patience s)
decreasing_by
  · left
    have : bytes.length ≠ 0 := by simpa using (by assumption : ¬bytes = [])
    simp only [List.length_drop]
    omega
  · right; assumption

/-- Write a text and pass it on at once. -/
def emit (o : Outlet σ) (text : String) : Action σ Cause Unit := do
  o.writeAll (Text.encode text)
  o.flush

/-! ### Outlets from outlets -/

/-- An outlet of a part of the world, as an outlet of the whole. -/
def within (p : Part σ γ δ) (o : Outlet γ) : Outlet σ where
  write s bytes :=
    match p.split s with
    | (g, d) =>
      match o.write g bytes with
      | (offer, after) => (offer, p.join after d)
  flush := o.flush.within p
  patience s := o.patience (p.get s)
  patience_lt s bytes h := by
    have := o.patience_lt (p.get s) bytes h
    simp only [Part.get_join]
    exact this

/-- The outlet that takes everything and never fails. -/
def boundless : Outlet Unit where
  write _ bytes := (.took bytes.length, ())
  flush := pure ()
  patience _ := 0
  patience_lt _ _ h := by simp at h

/-- The outlet that takes everything and fails whenever it should pass it on. -/
def stuck (cause : Cause) : Outlet Unit where
  write _ bytes := (.took bytes.length, ())
  flush := Action.fail cause
  patience _ := 0
  patience_lt _ _ h := by simp at h

end Outlet

/-! ### Keeping what was taken -/

/-- A device and all the bytes it has taken so far. -/
structure Channel (γ : Type) where
  device : γ
  taken : Array UInt8
  deriving Repr, Inhabited

/-- What an offer takes is kept. -/
def Outlet.kept {γ : Type} (o : Outlet γ) : Outlet (Channel γ) where
  write c bytes :=
    match c with
    | ⟨device, taken⟩ =>
      match o.write device bytes with
      | (.took n, after) => (.took n, ⟨after, taken ++ bytes.take n⟩)
      | (.interrupted, after) => (.interrupted, ⟨after, taken⟩)
      | (.failed cause, after) => (.failed cause, ⟨after, taken⟩)
  flush := fun c =>
    match c with
    | ⟨device, taken⟩ =>
      match o.flush device with
      | (outcome, after) => (outcome, ⟨after, taken⟩)
  patience c := o.patience c.device
  patience_lt c bytes h := by
    have key := o.patience_lt c.device bytes
    rcases hw : o.write c.device bytes with ⟨_ | _ | _, after⟩
    · simp [hw] at h
    · simpa [hw] using key
    · simp [hw] at h

end Orchestrator
