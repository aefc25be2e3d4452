import Orchestrator.Proofs.Course
import Orchestrator.Proofs.Delivery

namespace Orchestrator

/-!
# Moves — a run whose log never fails

If the log takes everything, a run does three kinds of things to its world, one after another.

* `Move` — a text is logged, the commands of a stage are looked up, or a command is run.
* `Host.Leads` — what the world becomes when some moves are made in order.
* `Leg.moves`, `account` — the moves that a leg and a whole run consist of, with every text.
* `Host.Does` — an action makes some moves and ends in some way; `Host.Does.bind` composes them.
-/

variable {σ π ω α β : Type}

/-! ### Moves and where they lead -/

/-- What a run does to its world at a time. -/
inductive Move where
  /-- A text is logged. -/
  | logged (text : String)
  /-- The commands of a stage are looked up. -/
  | looked (stage : Stage) (commands? : Option (List CommandLine))
  /-- A command is run. -/
  | ran (deed : Deed)

/-- The world after a text was logged, if nothing fails. -/
def Sink.noted (sink : Sink σ) (text : String) (w : σ) : σ := (sink.log text ⟨w, false⟩).2.world

/-- Logging changes the world alone. -/
theorem Sink.Reliable.log_eq {sink : Sink σ} (h : sink.Reliable) (text : String) (s : Session σ) :
    sink.log text s = (.ok (), ⟨sink.noted text s.world, s.headed⟩) :=
  Prod.ext (h text s) rfl

/-- `host.Leads config w moves w'`: the moves, made in order from the world `w`, lead to `w'`, and
the answers in them are those that the host gives. -/
inductive Host.Leads (host : Host π ω) (config : Config) :
    World π ω → List Move → World π ω → Prop where
  | done {w} : host.Leads config w [] w
  | logged {w text rest w'} (more : host.Leads config (host.sink.noted text w) rest w') :
      host.Leads config w (.logged text :: rest) w'
  | looked {w stage rest w'} (more : host.Leads config w rest w') :
      host.Leads config w (.looked stage (host.stageCommands? config w.files stage) :: rest) w'
  | ran {w call rest w'}
      (more : host.Leads config (host.runner.execute call.command call.context w).2 rest w') :
      host.Leads config w
        (.ran ⟨call, (host.runner.execute call.command call.context w).1⟩ :: rest) w'

/-- Moves and then other moves lead where both lead one after the other. -/
theorem Host.Leads.append {host : Host π ω} {config : Config} {w w' w'' : World π ω}
    {first second : List Move} (h : host.Leads config w first w')
    (h' : host.Leads config w' second w'') : host.Leads config w (first ++ second) w'' := by
  induction h with
  | done => exact h'
  | logged more ih => exact .logged (ih h')
  | looked more ih => exact .looked (ih h')
  | ran more ih => exact .ran (ih h')

/-- Some moves and then others: there is a world between them. -/
theorem Host.Leads.of_append {host : Host π ω} {config : Config} {w w'' : World π ω}
    {first second : List Move} (h : host.Leads config w (first ++ second) w'') :
    ∃ w', host.Leads config w first w' ∧ host.Leads config w' second w'' := by
  induction first generalizing w with
  | nil => exact ⟨w, .done, h⟩
  | cons move first ih =>
    cases h with
    | logged more => obtain ⟨w', begun, rest⟩ := ih more; exact ⟨w', .logged begun, rest⟩
    | looked more => obtain ⟨w', begun, rest⟩ := ih more; exact ⟨w', .looked begun, rest⟩
    | ran more => obtain ⟨w', begun, rest⟩ := ih more; exact ⟨w', .ran begun, rest⟩

/-- The commands that are looked up are those of the files that the moves have come to. -/
theorem Host.Leads.looked_eq {host : Host π ω} {config : Config} {w w' : World π ω}
    {stage : Stage} {commands? : Option (List CommandLine)} {rest : List Move}
    (h : host.Leads config w (.looked stage commands? :: rest) w') :
    commands? = host.stageCommands? config w.files stage := by
  cases h
  rfl

/-! ### The moves of a run -/

namespace Deed

/-- The lines that tell how a command ended; none if the runner ended with a fault. -/
def report (deed : Deed) : List String :=
  match deed.answer with
  | .ok result =>
    if result.code = 0 then [Banner.ok.line deed.call.command.display]
    else [Banner.separator.line "", Banner.stderr.line "", result.errorText,
      Banner.failed.line deed.call.command.display, Sink.codeLine result.code]
  | .error _ => []

/-- A command is announced, run, and reported. -/
def moves (deed : Deed) : List Move :=
  .logged (Banner.run.line deed.call.command.display) :: .ran deed :: deed.report.map .logged

end Deed

/-- The texts logged before a stage is begun: the example stages have a heading of their own, apart
from what was logged before. -/
def Stage.opening (stage : Stage) : List String :=
  if stage = .buildExamples then ["\n", Banner.separator.line exampleHeading] else []

/-- A stage is opened, its commands are looked up, and those that were run follow. -/
def Leg.moves (leg : Leg) : List Move :=
  leg.stage.opening.map .logged ++ .looked leg.stage leg.commands? :: leg.deeds.flatMap Deed.moves

/-- The last line of a run. -/
def lastLine : Except Fault Outcome → String
  | .ok .passed => successLine
  | _ => failureLine

/-- The texts logged before the first leg. An empty line comes first if a heading was logged on this
sink before. -/
def overture (headed : Bool) : List String :=
  (if headed then ["\n"] else []) ++ [Banner.separator.line unitTestHeading]

/-- All that a run does: the heading, the legs, and the last line. -/
def account (headed : Bool) (legs : List Leg) (outcome : Except Fault Outcome) : List Move :=
  (overture headed).map .logged ++ legs.flatMap Leg.moves ++ [.logged (lastLine outcome)]

/-! ### Actions that make moves -/

namespace Host

variable (host : Host π ω) (config : Config)

/-- The action makes the moves and ends with `out`; a heading was logged by then if `headed`. -/
structure Does (action : Logged (World π ω) α) (s : Session (World π ω)) (moves : List Move)
    (out : Except Fault α) (s' : Session (World π ω)) : Prop where
  ends : action s = (out, s')
  leads : host.Leads config s.world moves s'.world

variable {host config}

/-- An action and what it leads to make the moves of both. -/
theorem Does.bind {first : Logged (World π ω) α} {next : α → Logged (World π ω) β}
    {s s' s'' : Session (World π ω)} {begun more : List Move} {a : α} {out : Except Fault β}
    (h : host.Does config first s begun (.ok a) s')
    (h' : host.Does config (next a) s' more out s'') :
    host.Does config (first >>= next) s (begun ++ more) out s'' where
  ends := by rw [Action.bind_of_ok h.ends, h'.ends]
  leads := h.leads.append h'.leads

/-- After an action that fails, nothing more is done. -/
theorem Does.bind_error {first : Logged (World π ω) α} {s s' : Session (World π ω)}
    {moves : List Move} {fault : Fault} (h : host.Does config first s moves (.error fault) s')
    (next : α → Logged (World π ω) β) :
    host.Does config (first >>= next) s moves (.error fault) s' where
  ends := Action.bind_of_error h.ends next
  leads := h.leads

/-- Telling the value of an action in other terms makes no move. -/
theorem Does.bind_pure {first : Logged (World π ω) α} {s s' : Session (World π ω)}
    {moves : List Move} {a : α} (h : host.Does config first s moves (.ok a) s') (f : α → β) :
    host.Does config (first >>= fun a => pure (f a)) s moves (.ok (f a)) s' where
  ends := Action.bind_of_ok h.ends _
  leads := h.leads

/-- The moves of an action may be written in another way. -/
theorem Does.of_eq {action : Logged (World π ω) α} {s s' : Session (World π ω)}
    {moves moves' : List Move} {out : Except Fault α} (h : host.Does config action s moves out s')
    (same : moves = moves') : host.Does config action s moves' out s' := same ▸ h

/-- To do nothing makes no move. -/
theorem does_pure (a : α) (s : Session (World π ω)) :
    host.Does config (pure a) s [] (.ok a) s := ⟨rfl, .done⟩

/-- What a fault does not end is not followed by the failure line. -/
theorem does_orFailureLine_ok {action : Logged (World π ω) α} {s s' : Session (World π ω)}
    {moves : List Move} {a : α} (h : host.Does config action s moves (.ok a) s') :
    host.Does config (host.orFailureLine action) s moves (.ok a) s' where
  ends := orFailureLine_of_ok h.ends
  leads := h.leads

/-- To run a command is a move of its own. -/
theorem does_run (host : Host π ω) (config : Config) (call : Call) (s : Session (World π ω)) :
    let ran := host.runner.execute call.command call.context s.world
    host.Does config ((host.runner.execute call.command call.context).within (Session.part _)) s
      [.ran ⟨call, ran.1⟩] ran.1 ⟨ran.2, s.headed⟩ :=
  ⟨rfl, .ran .done⟩

/-! ### Lines of the log -/

variable (reliable : host.sink.Reliable)
include reliable

/-- To log a text is a move of its own, if the log takes it. -/
theorem does_log (text : String) (s : Session (World π ω)) :
    host.Does config (host.sink.log text) s [.logged text] (.ok ())
      ⟨host.sink.noted text s.world, s.headed⟩ :=
  ⟨reliable.log_eq text s, .logged .done⟩

end Host

end Orchestrator
