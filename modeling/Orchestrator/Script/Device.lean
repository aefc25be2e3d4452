import Orchestrator.Outlet

namespace Orchestrator.Script

/-!
# Scripts — devices with planned faults

* `DeviceScript` — how much a device takes at a time and in all, and which of its calls fail.
* `DeviceScript.outlet` — the device that behaves so. Writes and flushes are numbered from zero, and
  those that fail or are interrupted count as well.
-/

/-- What a device does. -/
structure DeviceScript where
  /-- The most it takes at a time. -/
  chunk : Option Nat
  /-- The most it takes in all; it fails when it can take no more. -/
  capacity : Option Nat
  /-- The most it takes in all; it takes nothing when it can take no more. -/
  silentAfter : Option Nat
  failingWrites : List Nat
  interruptedWrites : List Nat
  failingFlushes : List Nat
  deriving Repr, Inhabited

/-- What a device has done so far. -/
structure DeviceState where
  stored : Nat
  writes : Nat
  flushes : Nat
  deriving DecidableEq, Repr

/-- A device that has done nothing yet. -/
def DeviceState.new : DeviceState := ⟨0, 0, 0⟩

/-- The lesser of a number and a bound, where there is one. -/
def atMost (n : Nat) : Option Nat → Nat
  | none => n
  | some bound => min n bound

namespace DeviceScript

variable (script : DeviceScript)

/-- How many bytes of those offered the device can take, its capacity left aside. -/
def room (stored offered : Nat) : Nat :=
  atMost (atMost offered script.chunk) (script.silentAfter.map (· - stored))

/-- What the device does with an offer that is neither interrupted nor planned to fail. -/
def take (stored offered : Nat) : Offer :=
  let n := script.room stored offered
  match script.capacity with
  | none => .took n
  | some capacity =>
    if min n (capacity - stored) = 0 then .failed (.words "writer full")
    else .took (min n (capacity - stored))

/-- What the device does with an offer. -/
def offer (state : DeviceState) (offered : Nat) : Offer :=
  if state.writes ∈ script.interruptedWrites then .interrupted
  else if state.writes ∈ script.failingWrites then .failed (.words "scripted write failure")
  else script.take state.stored offered

/-- How many bytes an offer moved. -/
def moved : Offer → Nat
  | .took n => n
  | _ => 0

/-- How many interruptions are planned for writes to come. -/
def interruptionsLeft (state : DeviceState) : Nat :=
  (script.interruptedWrites.filter (state.writes ≤ ·)).length

theorem take_ne_interrupted (stored offered : Nat) :
    script.take stored offered ≠ .interrupted := by
  unfold take
  cases script.capacity with
  | none => simp
  | some capacity => simp only; split <;> simp

theorem interruptionsLeft_lt (state : DeviceState) (h : state.writes ∈ script.interruptedWrites)
    (stored flushes : Nat) :
    script.interruptionsLeft ⟨stored, state.writes + 1, flushes⟩
      < script.interruptionsLeft state := by
  simp only [interruptionsLeft]
  generalize script.interruptedWrites = planned at h
  induction planned with
  | nil => simp at h
  | cons a rest ih =>
    have mono : (rest.filter (state.writes + 1 ≤ ·)).length
        ≤ (rest.filter (state.writes ≤ ·)).length := by
      simp only [← List.countP_eq_length_filter]
      refine List.countP_mono_left fun b _ hb => ?_
      rw [decide_eq_true_eq] at hb ⊢
      omega
    simp only [List.filter_cons, decide_eq_true_eq]
    rcases List.mem_cons.1 h with rfl | h
    · rw [if_neg (by omega), if_pos (Nat.le_refl _), List.length_cons]
      omega
    · have := ih h
      by_cases ahead : state.writes + 1 ≤ a
      · rw [if_pos ahead, if_pos (by omega), List.length_cons, List.length_cons]
        omega
      · rw [if_neg ahead]
        split
        · rw [List.length_cons]
          omega
        · exact this

/-- The device as an outlet. -/
def outlet : Outlet DeviceState where
  write state bytes :=
    let offer := script.offer state bytes.length
    (offer, ⟨state.stored + moved offer, state.writes + 1, state.flushes⟩)
  flush := fun state =>
    (if state.flushes ∈ script.failingFlushes then .error (.words "scripted flush failure")
      else .ok (), { state with flushes := state.flushes + 1 })
  patience := script.interruptionsLeft
  patience_lt state bytes h := by
    refine script.interruptionsLeft_lt state ?_ _ _
    simp only [offer] at h
    split at h
    · assumption
    · split at h
      · simp at h
      · exact absurd h (script.take_ne_interrupted _ _)

end DeviceScript

end Orchestrator.Script
