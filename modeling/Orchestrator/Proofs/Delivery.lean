import Orchestrator.Proofs.Text.Utf8
import Orchestrator.Sink

namespace Orchestrator

/-!
# Delivery — what becomes of a text that an outlet is given

`Outlet.writeAll` offers bytes in rounds whose number nobody knows beforehand. This file closes the
loop once:

* `Outlet.writeAll_of_ne_nil` — one round: an offer, and what follows from the answer.
* `Outlet.writeAll_rule` — what every round keeps is kept by the whole.
* `Action.bind_within` — actions on a part of the world, one after the other.
* `Outlet.emit_within` — an outlet of a part of the world works on that part alone.
* `Outlet.exists_taken_emit`, `Outlet.taken_emit` — a channel takes a beginning of the text that it
  is given, and all of it if nothing fails.
* `Outlet.Reliable` — an outlet that may take few bytes at a time and be interrupted, but never
  fails; every text gets through it (`Outlet.Reliable.emit`).
* `Outlet.Jammed` — an outlet that never passes anything on.
* `Sink.log_apply` — a text goes to the transcript once the console was given all of it.
-/

variable {σ γ δ ε ε' α β : Type}

namespace Action

/-! ### Actions on a part -/

/-- Two actions on a part, one after the other, are an action on that part. -/
theorem bind_within (p : Part σ γ δ) (first : Action γ ε α) (next : α → Action γ ε β) :
    (first >>= next).within p = first.within p >>= fun a => (next a).within p := by
  funext s
  rw [within_apply, bind_apply, bind_apply, within_apply]
  rcases first (p.get s) with ⟨e | a, g⟩
  · rfl
  · dsimp only
    rw [within_apply, p.get_join, p.rest_join]

/-- Errors may be told in other terms in a part of the world or in the whole. -/
theorem mapError_within (p : Part σ γ δ) (f : ε → ε') (action : Action γ ε α) :
    (action.mapError f).within p = (action.within p).mapError f := by
  funext s
  rw [within_apply, mapError, mapError, within_apply]
  rcases action (p.get s) with ⟨e | a, g⟩ <;> rfl

end Action

namespace Outlet

/-! ### One round, and all of them -/

variable (o : Outlet σ)

/-- Nothing is offered when there are no bytes. -/
@[simp] theorem writeAll_nil (s : σ) : o.writeAll [] s = (.ok (), s) := by
  rw [writeAll, if_pos rfl]

/-- To write some bytes is to offer them once and to go on with what came of it. -/
theorem writeAll_of_ne_nil {bytes : Bytes} (nonempty : bytes ≠ []) (s : σ) :
    o.writeAll bytes s = match o.write s bytes with
      | (.took 0, after) => (.error .nothingTaken, after)
      | (.took (n + 1), after) => o.writeAll (bytes.drop (n + 1)) after
      | (.interrupted, after) => o.writeAll bytes after
      | (.failed cause, after) => (.error cause, after) := by
  rw [writeAll, if_neg nonempty]
  split <;> simp [*]

/-- **Rule for writing.** If every offer keeps `I`, a relation between the state and the bytes still
to be written, or fails with `F`, then so does writing all. -/
theorem writeAll_rule {I : σ → Bytes → Prop} {F : σ → Cause → Prop}
    (round : ∀ s bytes, bytes ≠ [] → I s bytes →
      match o.write s bytes with
      | (.took 0, after) => F after .nothingTaken
      | (.took (n + 1), after) => I after (bytes.drop (n + 1))
      | (.interrupted, after) => I after bytes
      | (.failed cause, after) => F after cause)
    (s : σ) (bytes : Bytes) (start : I s bytes) :
    match o.writeAll bytes s with
    | (.ok (), after) => I after []
    | (.error cause, after) => F after cause := by
  fun_induction o.writeAll bytes s with
  | case1 s => exact start
  | case2 bytes s nonempty after h => simpa [h] using round s bytes nonempty start
  | case3 bytes s nonempty n after h ih =>
    exact ih (by simpa [h] using round s bytes nonempty start)
  | case4 bytes s nonempty after h less ih =>
    exact ih (by simpa [h] using round s bytes nonempty start)
  | case5 bytes s nonempty cause after h => simpa [h] using round s bytes nonempty start

/-- A text that was written is passed on; one that was not is not. -/
theorem emit_apply (text : String) (s : σ) :
    o.emit text s = match o.writeAll (Text.encode text) s with
      | (.ok (), after) => o.flush after
      | (.error cause, after) => (.error cause, after) := by
  rw [emit, Action.bind_apply]
  rcases o.writeAll (Text.encode text) s with ⟨_ | ⟨⟩, after⟩ <;> rfl

/-! ### Outlets of a part -/

theorem write_within (p : Part σ γ δ) (o : Outlet γ) (s : σ) (bytes : Bytes) :
    (o.within p).write s bytes
      = ((o.write (p.get s) bytes).1, p.join (o.write (p.get s) bytes).2 (p.rest s)) := rfl

/-- Writing in a part of the world writes there and leaves the rest. The rounds are the same, so the
induction is on those of the part. -/
theorem writeAll_join (p : Part σ γ δ) (o : Outlet γ) (bytes : Bytes) (g : γ) (d : δ) :
    (o.within p).writeAll bytes (p.join g d)
      = ((o.writeAll bytes g).1, p.join (o.writeAll bytes g).2 d) := by
  fun_induction o.writeAll bytes g with
  | case1 g => simp
  | case2 bytes g nonempty after h =>
    rw [writeAll_of_ne_nil _ nonempty, write_within, p.get_join, p.rest_join, h]
  | case3 bytes g nonempty n after h ih =>
    rw [writeAll_of_ne_nil _ nonempty, write_within, p.get_join, p.rest_join, h]
    exact ih
  | case4 bytes g nonempty after h less ih =>
    rw [writeAll_of_ne_nil _ nonempty, write_within, p.get_join, p.rest_join, h]
    exact ih
  | case5 bytes g nonempty cause after h =>
    rw [writeAll_of_ne_nil _ nonempty, write_within, p.get_join, p.rest_join, h]

/-- An outlet of a part gives bytes to that part and leaves the rest as it is. -/
theorem writeAll_within (p : Part σ γ δ) (o : Outlet γ) (bytes : Bytes) :
    (o.within p).writeAll bytes = (o.writeAll bytes).within p := by
  funext s
  have written := writeAll_join p o bytes (p.get s) (p.rest s)
  rwa [p.join_get_rest] at written

/-- An outlet of a part gives a text to that part and leaves the rest as it is. -/
theorem emit_within (p : Part σ γ δ) (o : Outlet γ) (text : String) :
    (o.within p).emit text = (o.emit text).within p := by
  rw [emit, emit, Action.bind_within, writeAll_within]
  rfl

/-! ### Channels -/

/-- A channel takes a beginning of the bytes that it is given, and all of them if nothing fails. -/
theorem exists_taken_writeAll (o : Outlet γ) (bytes : Bytes) (c : Channel γ) :
    ∃ part, (o.kept.writeAll bytes c).2.taken.toList = c.taken.toList ++ part ∧ part <+: bytes ∧
      ((o.kept.writeAll bytes c).1 = .ok () → part = bytes) := by
  -- in every round what was taken and what is left make up the bytes
  have rule := o.kept.writeAll_rule
    (I := fun now rest => ∃ part, now.taken.toList = c.taken.toList ++ part ∧ part ++ rest = bytes)
    (F := fun now _ => ∃ part, now.taken.toList = c.taken.toList ++ part ∧ part <+: bytes)
    ?_ c bytes ⟨[], (List.append_nil _).symm, rfl⟩
  · rcases given : o.kept.writeAll bytes c with ⟨cause | ⟨⟩, after⟩
    · rw [given] at rule
      obtain ⟨part, taken, short⟩ := rule
      exact ⟨part, taken, short, nofun⟩
    · rw [given] at rule
      obtain ⟨part, taken, whole⟩ := rule
      rw [List.append_nil] at whole
      exact ⟨part, taken, whole ▸ List.prefix_rfl, fun _ => whole⟩
  · rintro ⟨device, taken⟩ rest nonempty ⟨part, now, whole⟩
    have short : part <+: bytes := ⟨rest, whole⟩
    simp only [Outlet.kept]
    rcases o.write device rest with ⟨(_ | n) | _ | cause, after⟩
    · exact ⟨part, by simpa using now, short⟩
    · refine ⟨part ++ rest.take (n + 1), ?_, ?_⟩
      · rw [← List.append_assoc, ← now]
        exact Array.toList_appendList
      · rw [List.append_assoc, List.take_append_drop, whole]
    · exact ⟨part, now, whole⟩
    · exact ⟨part, now, short⟩

/-- A channel takes a beginning of the text that it is given, and all of it if nothing fails. -/
theorem exists_taken_emit (o : Outlet γ) (text : String) (c : Channel γ) :
    ∃ part, (o.kept.emit text c).2.taken.toList = c.taken.toList ++ part ∧
      part <+: Text.encode text ∧ ((o.kept.emit text c).1 = .ok () → part = Text.encode text) := by
  obtain ⟨part, taken, short, whole⟩ := o.exists_taken_writeAll (Text.encode text) c
  rw [emit_apply]
  rcases given : o.kept.writeAll (Text.encode text) c with ⟨cause | ⟨⟩, after⟩
  · rw [given] at taken
    exact ⟨part, taken, short, nofun⟩
  · -- passing on does not touch what was taken
    rw [given] at taken whole
    exact ⟨part, taken, short, fun _ => whole rfl⟩

/-- A channel that was given bytes without a failure has taken all of them. -/
theorem taken_writeAll (o : Outlet γ) {c after : Channel γ} {bytes : Bytes}
    (h : o.kept.writeAll bytes c = (.ok (), after)) :
    after.taken.toList = c.taken.toList ++ bytes := by
  obtain ⟨part, taken, -, whole⟩ := o.exists_taken_writeAll bytes c
  rw [h] at taken whole
  rw [taken, whole rfl]

/-- A channel that was given a text without a failure has taken all of it. -/
theorem taken_emit (o : Outlet γ) {c after : Channel γ} {text : String}
    (h : o.kept.emit text c = (.ok (), after)) :
    after.taken.toList = c.taken.toList ++ Text.encode text := by
  obtain ⟨part, taken, -, whole⟩ := o.exists_taken_emit text c
  rw [h] at taken whole
  rw [taken, whole rfl]

/-! ### Outlets that never fail -/

/-- An outlet that never fails. It may take few bytes at a time and be interrupted. -/
structure Reliable (o : Outlet σ) : Prop where
  write : ∀ s bytes, bytes ≠ [] →
    (o.write s bytes).1 = .interrupted ∨ ∃ n, (o.write s bytes).1 = .took (n + 1)
  flush : ∀ s, (o.flush s).1 = .ok ()

/-- All bytes get through a reliable outlet: no offer fails, and each but the interrupted ones takes
some of them. -/
theorem Reliable.writeAll {o : Outlet σ} (h : o.Reliable) (bytes : Bytes) (s : σ) :
    (o.writeAll bytes s).1 = .ok () := by
  have rule := o.writeAll_rule (I := fun _ _ => True) (F := fun _ _ => False) ?_ s bytes trivial
  · rcases written : o.writeAll bytes s with ⟨_ | ⟨⟩, after⟩
    · simp [written] at rule
    · rfl
  · intro s bytes nonempty _
    have answer := h.write s bytes nonempty
    -- of the four answers two are ruled out, and the other two keep nothing
    rcases offered : o.write s bytes with ⟨(_ | n) | _ | cause, after⟩ <;>
      simp [offered] at answer ⊢

/-- Every text gets through a reliable outlet. -/
theorem Reliable.emit {o : Outlet σ} (h : o.Reliable) (text : String) (s : σ) :
    (o.emit text s).1 = .ok () := by
  have written := h.writeAll (Text.encode text) s
  rw [emit_apply]
  rcases all : o.writeAll (Text.encode text) s with ⟨_ | ⟨⟩, after⟩
  · simp [all] at written
  · exact h.flush after

/-- A channel is as reliable as its device. -/
theorem Reliable.kept {o : Outlet γ} (h : o.Reliable) : o.kept.Reliable where
  write c bytes nonempty := by
    have answer := h.write c.device bytes nonempty
    have same : (o.kept.write c bytes).1 = (o.write c.device bytes).1 := by
      simp only [Outlet.kept]
      rcases o.write c.device bytes with ⟨_ | _ | _, _⟩ <;> rfl
    rwa [same]
  flush c := h.flush c.device

/-- A reliable channel takes every text. -/
theorem Reliable.exists_emit {o : Outlet γ} (h : o.Reliable) (text : String) (c : Channel γ) :
    ∃ c', o.kept.emit text c = (.ok (), c') ∧
      c'.taken.toList = c.taken.toList ++ Text.encode text := by
  have ok := h.kept.emit text c
  rcases given : o.kept.emit text c with ⟨_ | ⟨⟩, c'⟩
  · simp [given] at ok
  · exact ⟨c', rfl, taken_emit o given⟩

/-- An outlet is as reliable in the whole world as it is in its part. -/
theorem Reliable.within {o : Outlet γ} (h : o.Reliable) (p : Part σ γ δ) :
    (o.within p).Reliable where
  write s bytes nonempty := h.write (p.get s) bytes nonempty
  flush s := h.flush (p.get s)

/-- The outlet that takes everything is reliable. -/
theorem reliable_boundless : boundless.Reliable where
  write _ bytes nonempty := by
    obtain ⟨n, long⟩ := Nat.exists_eq_succ_of_ne_zero
      (fun empty => nonempty (List.eq_nil_of_length_eq_zero empty))
    exact .inr ⟨n, congrArg Offer.took long⟩
  flush _ := rfl

/-! ### Outlets that pass nothing on -/

/-- An outlet that fails whenever it should pass on what it holds. -/
def Jammed (o : Outlet σ) : Prop := ∀ s, ∃ cause, (o.flush s).1 = .error cause

/-- A channel is jammed if its device is. -/
theorem Jammed.kept {o : Outlet γ} (h : o.Jammed) : o.kept.Jammed := fun c => h c.device

/-- An outlet that is jammed in its part of the world is jammed. -/
theorem Jammed.within {o : Outlet γ} (h : o.Jammed) (p : Part σ γ δ) : (o.within p).Jammed :=
  fun s => h (p.get s)

/-- The outlet that never passes anything on is jammed. -/
theorem jammed_stuck (cause : Cause) : (stuck cause).Jammed := fun _ => ⟨cause, rfl⟩

end Outlet

/-! ### Logs -/

namespace Sink

variable (sink : Sink σ)

/-- The console comes first; the transcript is given a text that the console took. -/
theorem log_apply (text : String) (w : σ) (headed : Bool) :
    sink.log text ⟨w, headed⟩ = match sink.console.emit text w with
      | (.error cause, shown) => (.error (.console cause), ⟨shown, headed⟩)
      | (.ok (), shown) =>
        match sink.transcript.emit text shown with
        | (.error cause, written) => (.error (.transcript cause), ⟨written, headed⟩)
        | (.ok (), written) => (.ok (), ⟨written, headed⟩) := by
  show Action.within (Session.part σ) _ ⟨w, headed⟩ = _
  rw [Action.within_apply, Action.bind_apply]
  simp only [Action.mapError, Session.part, Part.get, Part.rest]
  rcases sink.console.emit text w with ⟨_ | ⟨⟩, shown⟩
  · rfl
  · dsimp only
    rcases sink.transcript.emit text shown with ⟨_ | ⟨⟩, written⟩ <;> rfl

/-- Every text gets into the log. -/
def Reliable : Prop := ∀ text s, (sink.log text s).1 = .ok ()

variable {sink}

/-- A log on two reliable outlets takes every text. -/
theorem reliable_of_outlets (console : sink.console.Reliable)
    (transcript : sink.transcript.Reliable) : sink.Reliable := by
  rintro text ⟨w, headed⟩
  have first := console.emit text w
  rw [log_apply]
  rcases shown : sink.console.emit text w with ⟨_ | ⟨⟩, after⟩
  · simp [shown] at first
  · have second := transcript.emit text after
    dsimp only
    rcases written : sink.transcript.emit text after with ⟨_ | ⟨⟩, last⟩
    · simp [written] at second
    · rfl

end Sink

end Orchestrator
