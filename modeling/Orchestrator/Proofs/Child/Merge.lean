import Orchestrator.Proofs.Child.Reading
import Orchestrator.Proofs.Text.Lines

namespace Orchestrator.Child

/-!
# Merging — two streams on one console

Which pipe of a child is read next is up to the system, line by line. Nothing is lost by that, and
nothing hangs on it but the order in which the lines of the two streams come to the console.

* `drainWithin` — the loop with a bound on its turns.
* `drainWithin_eq` — as many turns as there are lines, and one more for each pipe, are enough.
* `Merges` — the lines of two streams, each once and in the order of its stream.
* `exists_schedule` — every such order is that of some schedule.
* `drain_merges` — what is echoed and what is captured, for every schedule.
-/

variable {σ γ : Type}

/-! ### Turns of the loop -/

/-- The loop with at most `limit` turns; it tells nothing if a pipe is still open by then. -/
def drainWithin (console : Outlet σ) (schedule : Schedule) :
    (limit count : Nat) → (captured : String) → Pipes → Action σ Fault (Option String)
  | 0, count, captured, pipes => fun s =>
    match pipes.next? (schedule count) with
    | none => (.ok (some captured), s)
    | some _ => (.ok none, s)
  | limit + 1, count, captured, pipes => fun s =>
    match pipes.next? (schedule count) with
    | none => (.ok (some captured), s)
    | some (.closed, after) => drainWithin console schedule limit (count + 1) captured after s
    | some (.line pipe line, after) =>
      match echo console line s with
      | (.error fault, s) => (.error fault, s)
      | (.ok (), s) =>
        let captured := if pipe = .err then captured ++ shown line else captured
        drainWithin console schedule limit (count + 1) captured after s

/-- One turn of the loop, and the rest of it. -/
theorem drain_apply (console : Outlet σ) (schedule : Schedule) (count : Nat) (captured : String)
    (pipes : Pipes) (s : σ) :
    drain console schedule count captured pipes s =
      match pipes.next? (schedule count) with
      | none => (.ok captured, s)
      | some (.closed, after) => drain console schedule (count + 1) captured after s
      | some (.line pipe line, after) =>
        (do
          echo console line
          drain console schedule (count + 1)
            (if pipe = Pipe.err then captured ++ shown line else captured) after) s := by
  rw [drain]
  split
  · next next => rw [next]
  · next next => rw [next]
  · next pipe line after next =>
    simp only [next, Action.bind_apply]
    rcases echo console line s with ⟨fault | ⟨⟩, s'⟩ <;> rfl

/-- **The loop ends.** Whatever the console does, the loop makes at most one turn for each line, and
one more for each pipe. -/
theorem drainWithin_eq (console : Outlet σ) (schedule : Schedule) {limit : Nat} (count : Nat)
    (captured : String) {pipes : Pipes} (enough : pipes.remaining ≤ limit) (s : σ) :
    drainWithin console schedule limit count captured pipes s =
      ((drain console schedule count captured pipes s).1.map some,
        (drain console schedule count captured pipes s).2) := by
  -- every turn takes one off what remains, and so one off the bound is enough after it
  have fewer {limit : Nat} {p after : Pipes} {pipe : Pipe} {read : Pipes.Read}
      (next : p.next? pipe = some (read, after)) (enough : p.remaining ≤ limit + 1) :
      after.remaining ≤ limit := by
    have := Pipes.remaining_of_next? next
    omega
  induction limit generalizing count captured pipes s with
  | zero =>
    rw [drain_apply]
    rcases next : pipes.next? (schedule count) with _ | ⟨read, after⟩
    · simp only [drainWithin, next, Except.map]
    · have := Pipes.remaining_of_next? next
      omega
  | succ limit ih =>
    rw [drain_apply, drainWithin]
    rcases next : pipes.next? (schedule count) with _ | ⟨_ | ⟨pipe, line⟩, after⟩
    · rfl
    · exact ih (count + 1) captured (fewer next enough) s
    · dsimp only
      rw [Action.bind_apply]
      rcases echo console line s with ⟨fault | ⟨⟩, s'⟩
      · rfl
      · exact ih (count + 1) _ (fewer next enough) s'

/-- What remains at first are all lines of both streams, and that each of them is closed. -/
theorem remaining_ofStreams (out err : Bytes) :
    (Pipes.ofStreams out err).remaining
      = (Text.lines out).length + (Text.lines err).length + 2 := by
  simp only [Pipes.remaining, Pipes.ofStreams, Pipes.reads]
  omega

/-! ### Orders of lines -/

/-- The lines of two streams are read, each once and in the order of its stream. -/
structure Merges (read : List (Pipe × Bytes)) (out err : Bytes) : Prop where
  out : linesOf .out read = Text.lines out
  err : linesOf .err read = Text.lines err

/-- However the child is scheduled, the readings merge its two streams. -/
theorem merges_readings (schedule : Schedule) (out err : Bytes) :
    Merges (readings schedule 0 (.ofStreams out err)) out err :=
  ⟨linesOf_readings schedule 0 _ .out, linesOf_readings schedule 0 _ .err⟩

/-- A pipe that has a line and is asked for it gives it. -/
theorem Pipes.next?_of_line {p : Pipes} {pipe : Pipe} {line : Bytes} {rest : List Bytes}
    (h : p.left pipe = line :: rest) : ∃ after, p.next? pipe = some (.line pipe line, after) ∧
      ∀ other, after.left other = if other = pipe then rest else p.left other := by
  obtain ⟨out, err⟩ := p
  cases pipe with
  | out =>
    rcases out with _ | lines
    · cases h
    · obtain rfl : lines = line :: rest := h
      refine ⟨⟨some rest, err⟩, by cases err <;> rfl, fun other => ?_⟩
      cases other <;> rfl
  | err =>
    rcases err with _ | lines
    · cases h
    · obtain rfl : lines = line :: rest := h
      refine ⟨⟨out, some rest⟩, by cases out <;> rfl, fun other => ?_⟩
      cases other <;> rfl

/-- Lines that are left in the pipes, each once and in its order, are read in that order if the
schedule asks for them so. -/
theorem readings_eq_of_schedule {schedule : Schedule} {read : List (Pipe × Bytes)} {count : Nat}
    {pipes : Pipes} (left : ∀ pipe, pipes.left pipe = linesOf pipe read)
    (asks : ∀ i, schedule (count + i) = ((read[i]?).map (·.1)).getD .out) :
    readings schedule count pipes = read := by
  induction read generalizing count pipes with
  | nil =>
    -- nothing is left in either pipe
    refine List.eq_nil_iff_forall_not_mem.2 fun entry mem => ?_
    have none : linesOf entry.1 (readings schedule count pipes) = [] := by
      rw [linesOf_readings, left]
      rfl
    have absent := List.filter_eq_nil_iff.1 (List.map_eq_nil_iff.1 none) entry mem
    simp at absent
  | cons entry rest ih =>
    obtain ⟨pipe, line⟩ := entry
    have first : pipes.left pipe = line :: linesOf pipe rest := by
      rw [left]
      simp [linesOf]
    obtain ⟨after, read, still⟩ := Pipes.next?_of_line first
    have asked : schedule count = pipe := asks 0
    rw [readings_eq, asked, read]
    refine congrArg _ (ih (fun other => ?_) fun i => ?_)
    · rw [still]
      by_cases same : other = pipe
      · rw [if_pos same, same]
      · rw [if_neg same, left]
        simp [linesOf, Ne.symm same]
    · have next := asks (i + 1)
      rw [List.getElem?_cons_succ] at next
      rw [← next]
      congr 1
      omega

/-- **Every order is that of a schedule.** -/
theorem exists_schedule {read : List (Pipe × Bytes)} {out err : Bytes} (h : Merges read out err) :
    ∃ schedule, readings schedule 0 (.ofStreams out err) = read := by
  refine ⟨fun n => ((read[n]?).map (·.1)).getD .out, readings_eq_of_schedule (fun pipe => ?_) ?_⟩
  · cases pipe with
    | out => exact h.out.symm
    | err => exact h.err.symm
  · intro i
    rw [Nat.zero_add]

/-! ### What comes to the console -/

/-- A console that never fails takes a line that is echoed, and a newline. -/
theorem exists_echo {o : Outlet γ} (takes : o.Reliable) (line : Bytes) (c : Channel γ) :
    ∃ c', echo o.kept line c = (.ok (), c') ∧
      c'.taken.toList = c.taken.toList ++ Text.encode (shown line) := by
  have ok := echo_of_reliable takes.kept line c
  have text := takes.kept.writeAll (Text.encode (Text.decode line)) c
  rcases written : o.kept.writeAll (Text.encode (Text.decode line)) c with ⟨_ | ⟨⟩, c₁⟩
  · simp [written] at text
  have ending := takes.kept.writeAll [Text.newline] c₁
  rcases ended : o.kept.writeAll [Text.newline] c₁ with ⟨_ | ⟨⟩, c₂⟩
  · simp [ended] at ending
  rcases echoed : echo o.kept line c with ⟨_ | ⟨⟩, c'⟩
  · simp [echoed] at ok
  refine ⟨c', rfl, ?_⟩
  -- passing on does not touch what was taken
  have passed : c'.taken = c₂.taken := by
    unfold echo at echoed
    rw [Action.mapError, Action.bind_of_ok written, Action.bind_of_ok ended] at echoed
    obtain ⟨device, taken⟩ := c₂
    simp only [Outlet.kept] at echoed
    rcases flushed : o.flush device with ⟨_ | ⟨⟩, device'⟩
    · simp [flushed] at echoed
    · simp only [flushed, Prod.mk.injEq, true_and] at echoed
      rw [← echoed]
  have newline_ : Text.encode "\n" = [Text.newline] := by decide
  rw [passed, Outlet.taken_writeAll o ended, Outlet.taken_writeAll o written, shown,
    Text.encode_append, newline_, List.append_assoc]

/-- Lines that are echoed one after another come to the console in that order. -/
theorem taken_echoAll {o : Outlet γ} (takes : o.Reliable) (lines : List Bytes) (c : Channel γ) :
    (echoAll o.kept lines c).taken.toList
      = c.taken.toList ++ Text.encode (String.join (lines.map shown)) := by
  induction lines generalizing c with
  | nil => simp [echoAll]
  | cons line rest ih =>
    obtain ⟨c', echoed, taken⟩ := exists_echo takes line c
    have first : echoAll o.kept (line :: rest) c = echoAll o.kept rest c' := by
      show echoAll o.kept rest (echo o.kept line c).2 = _
      rw [echoed]
    rw [first, ih, taken, List.map_cons, String.join_cons, Text.encode_append, List.append_assoc]

/-- **Nothing is lost between two pipes.** On a console that never fails, and whatever pipe is read
next, the loop is at its end after one turn for each line and one more for each pipe. It has
captured the lines of the error stream, so that neither the other stream nor the schedule has a say
in that. The lines of both streams have come to the console, each of them once, whole and ended by
a newline, and those of one stream in their order. -/
theorem drain_merges {o : Outlet γ} (takes : o.Reliable) (schedule : Schedule) (out err : Bytes)
    (c : Channel γ) :
    let turns := (Text.lines out).length + (Text.lines err).length + 2
    let captured := String.join ((Text.lines err).map shown)
    ∃ (read : List (Pipe × Bytes)) (c' : Channel γ),
      drain o.kept schedule 0 "" (.ofStreams out err) c = (.ok captured, c') ∧
      drainWithin o.kept schedule turns 0 "" (.ofStreams out err) c = (.ok (some captured), c') ∧
      Merges read out err ∧
      Text.AreLines (linesOf .out read) out ∧ Text.AreLines (linesOf .err read) err ∧
      c'.taken.toList
        = c.taken.toList ++ Text.encode (String.join (read.map fun entry => shown entry.2)) := by
  intro turns captured
  let read := readings schedule 0 (.ofStreams out err)
  let c' := echoAll o.kept (read.map (·.2)) c
  have drained : drain o.kept schedule 0 "" (.ofStreams out err) c = (.ok captured, c') := by
    rw [drain_eq takes.kept, String.empty_append]
    rfl
  have merges : Merges read out err := merges_readings schedule out err
  refine ⟨read, c', drained, ?_, merges, Text.areLines_iff.2 merges.out,
    Text.areLines_iff.2 merges.err, ?_⟩
  · -- each round reads a line or finds a pipe closed, and there are no more of either
    rw [drainWithin_eq o.kept schedule 0 "" (Nat.le_of_eq (remaining_ofStreams out err)),
      drained]
    rfl
  · rw [taken_echoAll takes, List.map_map]
    rfl

/-- A child with an empty line among its lines and a last line that is not ended, read in turns. -/
theorem drain_merges_inTurns :
    let schedule : Schedule := fun n => if n % 2 = 0 then .out else .err
    let out := Text.encode "a\n\nb"
    let err := Text.encode "x\r\n"
    Outlet.boundless.Reliable ∧
    ∃ (read : List (Pipe × Bytes)) (c' : Channel Unit),
      drainWithin Outlet.boundless.kept schedule 6 0 "" (.ofStreams out err) ⟨(), #[]⟩
        = (.ok (some "x\r\n"), c') ∧
      Merges read out err ∧
      c'.taken.toList = Text.encode (String.join (read.map fun entry => shown entry.2)) := by
  intro schedule out err
  obtain ⟨read, c', -, turned, merges, -, -, taken⟩ :=
    drain_merges Outlet.reliable_boundless schedule out err ⟨(), #[]⟩
  have lines : Text.lines out = [[97], [], [98]] ∧ Text.lines err = [[120, 13]] := by decide
  have captured : String.join ((Text.lines err).map shown) = "x\r\n" := by decide
  rw [lines.1, captured, lines.2] at turned
  exact ⟨Outlet.reliable_boundless, read, c', turned, merges, taken⟩

end Orchestrator.Child
