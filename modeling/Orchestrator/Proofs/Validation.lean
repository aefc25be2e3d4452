import Orchestrator.Proofs.Diary

namespace Orchestrator

/-!
# Validation — commands in two parts

To run commands in order is to run a first part of them and then, if all of that succeeded, the
rest. It does not matter where they are cut, and what is cut off is not begun if the first part
ends the whole.

* `validateAll_append` — a list of commands, cut in two.
* `Host.watched_behind` — what is in a diary already has no say in what is added to it.
* `Host.validation_composes` — the two parts end as the whole, in the same world and with the same
  events.
-/

/-- A list of commands, cut in two. -/
theorem validateAll_append {σ : Type} (sink : Sink σ) (runner : Runner σ) (ctx : Context)
    (commands rest : List CommandLine) :
    validateAll sink runner ctx (commands ++ rest) = (do
      if ← validateAll sink runner ctx commands then validateAll sink runner ctx rest
      else pure false) := by
  induction commands with
  | nil => rw [List.nil_append, validateAll_nil, pure_bind, if_pos rfl]
  | cons command more ih =>
    rw [List.cons_append, validateAll_cons, validateAll_cons, bind_assoc]
    refine bind_congr fun passed => ?_
    cases passed with
    | false => rw [if_neg Bool.false_ne_true, if_neg Bool.false_ne_true, pure_bind,
        if_neg Bool.false_ne_true]
    | true => rw [if_pos rfl, if_pos rfl, ih]

namespace Host

variable {π ω : Type} (host : Host π ω)

/-! ### Diaries that are begun -/

/-- Two worlds that are alike, but that the diary of the first began with earlier events. -/
def Behind (earlier : List Event) (w' w : World π (Watched ω)) : Prop :=
  ∃ v diary, w' = watchedPart.join v (earlier ++ diary) ∧ w = watchedPart.join v diary

variable {earlier : List Event} {ε α : Type}

/-- Noting what an action answers adds one event, whatever events lie behind. -/
theorem follows_noting (note : Except ε α → Event) (action : Action (World π ω) ε α) :
    Action.Follows (Behind earlier) (action.noting note) (action.noting note) := by
  rintro w' w ⟨v, diary, rfl, rfl⟩
  exact ⟨_, _, _, rfl, rfl, _, _, congrArg _ (List.append_assoc _ _ _), rfl⟩

/-- A watched device behaves alike, whatever events lie behind. -/
theorem watched_outlet_behind (side : Side) (o : Outlet (World π ω)) :
    (o.watched side).Matches (Behind earlier) (o.watched side) where
  write := by
    rintro bytes - w' w ⟨v, diary, rfl, rfl⟩
    exact ⟨_, _, _, rfl, rfl, _, _, congrArg _ (List.append_assoc _ _ _), rfl⟩
  flush := follows_noting _ _

/-- What is in a diary already has no say in what is added to it. -/
theorem watched_behind : host.watched.Matches (Behind earlier) host.watched where
  start := rfl
  files := by
    rintro w' w ⟨v, diary, rfl, rfl⟩
    rfl
  sink := ⟨watched_outlet_behind _ _, watched_outlet_behind _ _⟩
  runner _ _ := follows_noting _ _

/-! ### The events of commands -/

/-- What running commands in order adds to a diary. -/
def validationEvents (ctx : Context) (commands : List CommandLine) (s : Session (World π ω)) :
    List Event :=
  (validateAll host.watched.sink host.watched.runner ctx commands s.watched).2.diary

/-- In a world with a diary, commands do what they do without one, and add their events to it. -/
theorem watched_validateAll (ctx : Context) (commands : List CommandLine)
    (s : Session (World π ω)) (earlier : List Event) :
    let done := validateAll host.sink host.runner ctx commands s
    validateAll host.watched.sink host.watched.runner ctx commands
        ⟨watchedPart.join s.world earlier, s.headed⟩ =
      (done.1, ⟨watchedPart.join done.2.world (earlier ++ host.validationEvents ctx commands s),
        done.2.headed⟩) := by
  intro done
  obtain ⟨out, ⟨_, headed⟩, u, ends, ends', same, rfl⟩ :=
    host.watched_matches.validateAll ctx commands s.watched s ⟨rfl, rfl⟩
  obtain ⟨_, ⟨_, _⟩, _, begun, begun', ⟨v, diary, rfl, after⟩, rfl⟩ :=
    host.watched_behind.validateAll ctx commands ⟨watchedPart.join s.world earlier, s.headed⟩
      s.watched ⟨⟨s.world, [], by rw [List.append_nil], rfl⟩, rfl⟩
  -- both are compared with the run whose diary is empty at first
  obtain ⟨rfl, rfl⟩ := Prod.mk.inj (ends.symm.trans begun')
  dsimp only at after
  subst after
  have world : v = u.world := same
  rw [begun]
  simp only [done, ends', validationEvents, ends, world]
  rfl

/-- **Commands in two parts.** To run a list of commands that is cut anywhere is to run its first
part and, just if all of that succeeded, the rest. Whatever the outlets and the runner do, both ways
end alike and leave the same world. They also ask the same of it on the way: all texts and flushes,
and all commands, with the same answers. Where the first part did not succeed, or ended with a
fault, nothing at all is asked for the rest. -/
theorem validation_composes (ctx : Context) (commands rest : List CommandLine)
    (s : Session (World π ω)) :
    let run commands := validateAll host.sink host.runner ctx commands
    let events := host.validationEvents ctx
    match run commands s with
    | (.ok true, after) => run (commands ++ rest) s = run rest after ∧
      events (commands ++ rest) s = events commands s ++ events rest after
    | stopped => run (commands ++ rest) s = stopped ∧
      events (commands ++ rest) s = events commands s := by
  intro run events
  have first := host.watched_validateAll ctx commands s []
  have second (after : Session (World π ω)) :=
    host.watched_validateAll ctx rest after (events commands s)
  have all : events (commands ++ rest) s = ((do
      if ← validateAll host.watched.sink host.watched.runner ctx commands
        then validateAll host.watched.sink host.watched.runner ctx rest
      else pure false) s.watched).2.diary := by
    rw [← validateAll_append]
    rfl
  rw [Action.bind_apply, show s.watched = ⟨watchedPart.join s.world [], s.headed⟩ from rfl, first]
    at all
  simp only [run, validateAll_append, Action.bind_apply]
  -- only after success the others are run, and then with an earlier diary
  rcases done : validateAll host.sink host.runner ctx commands s with ⟨fault | _ | _, after⟩
  · rw [done] at all
    exact ⟨rfl, all⟩
  · rw [done] at all
    exact ⟨rfl, all⟩
  · rw [done] at all
    refine ⟨rfl, all.trans ?_⟩
    exact congrArg (fun done => done.2.diary) (second after)

end Host

end Orchestrator
