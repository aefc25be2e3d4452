import Orchestrator.Proofs.Text.Lines
import Orchestrator.Proofs.Child.Occasions
import Orchestrator.Proofs.FirstFault
import Orchestrator.Proofs.Transcript

namespace Orchestrator

/-!
# Starts of lines — every banner is found where a line starts

A log is put together from texts of many origins, and some end without a newline: the last line of a
run, and whatever a runner has captured. What begins with a tag has to start a line all the same, or
else no log could be compared with another line by line.

* `Responder.EndsLines` — what a runner captures ends its last line.
* `Child.Launcher.endsLines` — the runner that starts programs is one of these.
* `Records` — the events of moves, one move after another.
* `Host.records_history` — the diary of a run is the record of its account.
* `StartsLine` — the texts that have to start a line.
* `Bench.runMatrix_starts_lines` — all that a run logs of these starts one.
-/

/-! ### What is captured -/

/-- Behind a text that ends with a newline a line starts. -/
theorem Text.atLineStart_encode_line (text : String) :
    AtLineStart (encode (text ++ "\n")) := by
  have newline_ : encode "\n" = [newline] := by decide
  rw [encode_append, newline_]
  exact atLineStart_line_append.2 atLineStart_nil

/-- What the runner captures is empty or ends with a newline. -/
def Responder.EndsLines {π ρ : Type} (respond : Responder π ρ) : Prop :=
  ∀ call r files result, (respond call r files).1 = .ok result →
    Text.AtLineStart (Text.encode result.errorText)

namespace Child

variable {σ π ω : Type}

/-- Only whole lines are captured, whatever the console does. -/
theorem endsLines_of_drain {console : Outlet σ} {schedule : Schedule} {count : Nat}
    {captured text : String} {pipes : Pipes} {s s' : σ}
    (h : drain console schedule count captured pipes s = (.ok text, s'))
    (start : Text.AtLineStart (Text.encode captured)) : Text.AtLineStart (Text.encode text) := by
  -- every line that is captured is ended at once
  fun_induction drain console schedule count captured pipes s with
  | case1 count captured pipes s none =>
    cases h
    exact start
  | case2 count captured pipes s after closed ih => exact ih h start
  | case3 count captured pipes s pipe line after read fault s'' failed => cases h
  | case4 count captured pipes s pipe line after read s'' echoed captured' ih =>
    refine ih h ?_
    cases pipe with
    | out => exact start
    | err =>
      have more : captured' = captured ++ shown line := rfl
      rw [more, Text.encode_append]
      exact start.append (Text.atLineStart_encode_line _)

/-- **The runner that starts programs ends its lines.** Whatever its child writes, and also if none
could be started, what it captures is empty or ends with a newline. -/
theorem Launcher.endsLines (launcher : Launcher π ω) {command : CommandLine} {ctx : Context}
    {w w' : World π ω} {result : CommandResult}
    (h : launcher.run command ctx w = (.ok result, w')) :
    Text.AtLineStart (Text.encode result.errorText) := by
  unfold Launcher.run at h
  -- a program that cannot be started is told in one line
  split at h
  · cases h
    exact Text.atLineStart_encode_line _
  · dsimp only at h
    split at h
    · cases h
    · next drained =>
      cases h
      exact endsLines_of_drain drained Text.atLineStart_nil

end Child

/-! ### Records of moves -/

/-- The events of moves that are made one after another: those of every text that is logged, and
every command with its answer. -/
inductive Records : List Move → List Event → Prop where
  | done : Records [] []
  | logged {text events rest later} (logs : Logs text events (.ok ())) (more : Records rest later) :
      Records (.logged text :: rest) (events ++ later)
  | looked {stage commands? rest later} (more : Records rest later) :
      Records (.looked stage commands? :: rest) later
  | ran {deed rest later} (more : Records rest later) :
      Records (.ran deed :: rest) (.ran deed.call deed.answer :: later)

namespace Records

variable {moves first second : List Move} {events : List Event}

/-- A record of two lists of moves is one of the first, and one of the second behind it. -/
theorem of_append (h : Records (first ++ second) events) :
    ∃ earlier later, events = earlier ++ later ∧ Records first earlier ∧ Records second later := by
  -- the induction is on the moves that come first
  induction first generalizing events with
  | nil => exact ⟨[], events, rfl, .done, h⟩
  | cons move first ih =>
    cases h with
    | logged logs more =>
      obtain ⟨earlier, later, rfl, begun, rest⟩ := ih more
      exact ⟨_ ++ earlier, later, (List.append_assoc _ _ _).symm, .logged logs begun, rest⟩
    | looked more =>
      obtain ⟨earlier, later, rfl, begun, rest⟩ := ih more
      exact ⟨earlier, later, rfl, .looked begun, rest⟩
    | ran more =>
      obtain ⟨earlier, later, rfl, begun, rest⟩ := ih more
      exact ⟨_ :: earlier, later, rfl, .ran begun, rest⟩

/-- Both sides have taken the bytes of the moves. -/
theorem accepted_eq (h : Records moves events) (side : Side) :
    accepted side events = moves.flatMap Move.bytes := by
  induction h with
  | done => rfl
  | logged logs more ih =>
    rw [accepted_append, logs.accepted_eq, ih]
    rfl
  | looked more ih => exact ih
  | ran more ih => exact ih

end Records

namespace Host

variable {π ω : Type} {host : Host π ω} {config : Config}

/-- A log that takes everything does so in a world with a diary. -/
theorem watched_reliable (reliable : host.sink.Reliable) : host.watched.sink.Reliable := by
  intro text s
  obtain ⟨out, t, t', ends, ends', -⟩ :=
    host.watched_matches.sink.log text s ⟨watchedPart.get s.world, s.headed⟩ ⟨rfl, rfl⟩
  have ok := reliable text ⟨watchedPart.get s.world, s.headed⟩
  rw [ends'] at ok
  rw [ends]
  exact ok

/-- The moves that are made in a world with a diary are recorded there. -/
theorem records_of_leads (reliable : host.sink.Reliable) {moves : List Move}
    {w w' : World π (Watched ω)} (h : host.watched.Leads config w moves w') :
    ∃ events, w'.gear.diary = w.gear.diary ++ events ∧ Records moves events := by
  induction h with
  | done => exact ⟨[], (List.append_nil _).symm, .done⟩
  | @logged w text rest w' more ih =>
    -- the log takes the whole text, so that no event of it is missing
    obtain ⟨later, added, records⟩ := ih
    obtain ⟨events, noted, logs⟩ := host.notes_log text ⟨w, false⟩
    rw [watched_reliable reliable text ⟨w, false⟩] at logs
    refine ⟨events ++ later, ?_, .logged logs records⟩
    rw [added, ← List.append_assoc]
    exact congrArg (· ++ later) noted
  | looked more ih =>
    obtain ⟨later, added, records⟩ := ih
    exact ⟨later, added, .looked records⟩
  | @ran w call rest w' more ih =>
    obtain ⟨later, added, records⟩ := ih
    refine ⟨_ :: later, ?_, .ran records⟩
    rw [added, ← List.singleton_append, ← List.append_assoc]
    rfl

/-- Every answer in moves is one of the runner. -/
theorem answer_of_mem {moves : List Move} {w w' : World π ω} (h : host.Leads config w moves w')
    {deed : Deed} (mem : .ran deed ∈ moves) :
    ∃ v, deed.answer = (host.runner.execute deed.call.command deed.call.context v).1 := by
  induction h with
  | done => cases mem
  | logged more ih | looked more ih => exact ih (by simpa using mem)
  | ran more ih =>
    rcases List.mem_cons.1 mem with same | mem
    · cases same
      exact ⟨_, rfl⟩
    · exact ih mem

end Host

/-! ### Texts that start a line -/

/-- The texts that have to start a line: those that begin with a tag, the line with an exit code,
and the last line of a run. -/
inductive StartsLine : String → Prop where
  | banner (banner : Banner) (rest : String) : StartsLine (banner.line rest)
  | code (code : Int) : StartsLine (Sink.codeLine code)
  | success : StartsLine successLine
  | failure : StartsLine failureLine

/-- An empty line is none of these. -/
theorem StartsLine.ne_newline {text : String} (h : StartsLine text) : text ≠ "\n" := by
  intro same
  -- all of these are longer
  have one : text.length = 1 := congrArg String.length same
  cases h with
  | banner banner rest =>
    have width : banner.text.length = 13 := by cases banner <;> decide
    simp only [Banner.line, String.length_append] at one
    omega
  | code code =>
    have width : "    ErrorCode: ".length = 15 := by decide
    change ("    ErrorCode: " ++ toString code ++ "\n").length = 1 at one
    simp only [String.length_append] at one
    omega
  | success => cases one
  | failure => cases one

/-- What every command of a run has captured ends its last line. -/
def Leg.EndsLines (leg : Leg) : Prop := ∀ deed ∈ leg.deeds, ∀ result, deed.answer = .ok result →
  Text.AtLineStart (Text.encode result.errorText)

/-- Behind a banner a line starts. -/
theorem Text.atLineStart_banner (banner : Banner) (rest : String) :
    AtLineStart (encode (banner.line rest)) :=
  atLineStart_encode_line (banner.text ++ rest)

/-- The texts that open a stage are whole lines. -/
theorem Stage.atLineStart_opening (stage : Stage) :
    ∀ text ∈ stage.opening, Text.AtLineStart (Text.encode text) := by
  unfold Stage.opening
  split
  · exact List.forall_mem_cons.2 ⟨by decide,
      List.forall_mem_singleton.2 (Text.atLineStart_banner _ _)⟩
  · exact List.forall_mem_nil _

/-- What is reported of a deed is whole lines, if what its command has captured ends its last one. -/
theorem Deed.atLineStart_report {deed : Deed} (ends : ∀ result, deed.answer = .ok result →
    Text.AtLineStart (Text.encode result.errorText)) :
    ∀ text ∈ deed.report, Text.AtLineStart (Text.encode text) := by
  intro text line
  unfold Deed.report at line
  split at line
  · next result answer =>
    split at line
    · rw [List.mem_singleton.1 line]
      exact Text.atLineStart_banner _ _
    · -- the error text stands between lines of the log
      simp only [List.mem_cons, List.not_mem_nil, or_false] at line
      rcases line with rfl | rfl | rfl | rfl | rfl
      · exact Text.atLineStart_banner _ _
      · exact Text.atLineStart_banner _ _
      · exact ends result answer
      · exact Text.atLineStart_banner _ _
      · exact Text.atLineStart_encode_line _
  · cases line

/-- The moves of a leg add whole lines to the log. -/
theorem Leg.atLineStart_moves {leg : Leg} (ends : leg.EndsLines) :
    ∀ move ∈ leg.moves, Text.AtLineStart move.bytes := by
  -- a move is an opening line, a lookup, or one of what a deed does
  intro move mem
  simp only [Leg.moves, Deed.moves, List.mem_append, List.mem_map, List.mem_cons,
    List.mem_flatMap] at mem
  rcases mem with ⟨text, line, rfl⟩ | rfl | ⟨deed, mem, rfl | rfl | ⟨text, line, rfl⟩⟩
  · exact leg.stage.atLineStart_opening text line
  · exact Text.atLineStart_nil
  · exact Text.atLineStart_banner _ _
  · exact Text.atLineStart_nil
  · exact Deed.atLineStart_report (ends deed mem) text line

/-- All but the last line of a run adds whole lines to the log. -/
theorem atLineStart_account {again : Bool} {legs : List Leg} {verdict : Except Fault Outcome}
    (ends : ∀ leg ∈ legs, leg.EndsLines) :
    ∀ move ∈ (account again legs verdict).dropLast, Text.AtLineStart move.bytes := by
  have overture : ∀ text ∈ overture again, Text.AtLineStart (Text.encode text) := by
    unfold Orchestrator.overture
    refine List.forall_mem_append.2 ⟨?_, List.forall_mem_singleton.2 (Text.atLineStart_banner _ _)⟩
    cases again
    · exact List.forall_mem_nil _
    · exact List.forall_mem_singleton.2 (by decide)
  rw [account, List.dropLast_concat]
  refine List.forall_mem_append.2 ⟨List.forall_mem_map.2 overture, fun move mem => ?_⟩
  obtain ⟨leg, legs, mem⟩ := List.mem_flatMap.1 mem
  exact Leg.atLineStart_moves (ends leg legs) move mem

/-- **Every banner starts a line.** If every text that is captured ends its last line, and if
nothing was logged before unless a heading was, then each of the texts that have to do so starts a
line of the log. -/
theorem atLineStart_of_startsLine {again : Bool} {legs : List Leg}
    {verdict : Except Fault Outcome} (ends : ∀ leg ∈ legs, leg.EndsLines) {written : Bytes}
    (fresh : again = false → written = []) {before after : List Move} {text : String}
    (split : account again legs verdict = before ++ .logged text :: after)
    (starts : StartsLine text) :
    Text.AtLineStart (written ++ before.flatMap Move.bytes) := by
  have whole : Text.AtLineStart (before.flatMap Move.bytes) := by
    have lines : ∀ move ∈ (account again legs verdict).dropLast, Text.AtLineStart move.bytes :=
      atLineStart_account ends
    rw [split, List.dropLast_append_of_ne_nil (List.cons_ne_nil _ _)] at lines
    exact Text.atLineStart_flatMap fun move mem => lines move (List.mem_append_left _ mem)
  cases again with
  | false => rwa [fresh rfl]
  | true =>
    -- whatever was logged before, an empty line was logged then
    have first : account true legs verdict = .logged "\n" :: _ := rfl
    rw [first] at split
    cases before with
    | nil =>
      obtain ⟨⟨⟩, -⟩ := List.cons.inj split
      exact absurd rfl starts.ne_newline
    | cons move rest =>
      obtain ⟨rfl, -⟩ := List.cons.inj split
      refine whole.append_of_ne_nil ?_ written
      rw [List.flatMap_cons]
      exact List.append_ne_nil_of_left_ne_nil (by decide) _

namespace Host

variable {π ω : Type} {host : Host π ω} (config : Config)

/-- **The diary of a run is the record of its account.** If its log takes everything, a run whose
root is a directory does what its account tells, and all answers are those of its runner. -/
theorem records_history (reliable : host.sink.Reliable) {s : Session (World π ω)}
    (root : s.world.files.isDirectory host.start config.projectRoot = true) :
    ∃ legs, Records (account s.headed legs (host.runMatrix config s).1) (host.history config s) ∧
      ∀ leg ∈ legs, ∀ deed ∈ leg.deeds, ∃ v,
        deed.answer = (host.runner.execute deed.call.command deed.call.context v).1 := by
  obtain ⟨legs, outcome, w, -, ends, leads⟩ :=
    host.watched.does_runMatrix config (watched_reliable reliable) s.watched root
  obtain ⟨events, added, records⟩ := records_of_leads reliable leads
  obtain ⟨after, same, -⟩ := host.watched_runMatrix config s
  rw [ends] at same
  obtain ⟨rfl, -⟩ := Prod.mk.inj same
  -- the diary of the watched run is the history of the run
  have history : host.history config s = events := by
    rw [Host.history, ends]
    exact added.trans (List.nil_append _)
  refine ⟨legs, history ▸ records, fun leg mem deed mem' => ?_⟩
  have ran : .ran deed ∈ account s.watched.headed legs (host.runMatrix config s).1 := by
    simp only [account, Leg.moves, Deed.moves, List.mem_append, List.mem_flatMap, List.mem_cons]
    exact .inl (.inr ⟨leg, mem, .inr (.inr ⟨deed, mem', .inr (.inl rfl)⟩)⟩)
  obtain ⟨v, answer⟩ := answer_of_mem leads ran
  exact ⟨watchedPart.get v, answer⟩

end Host

namespace Bench

variable {π γ τ ρ : Type} {console : Outlet γ} {transcript : Outlet τ}

/-- **Every banner of a log starts a line.** On a fresh sink with devices that do not fail, after
any runs, take the next run, in whatever project, with a runner that ends the lines of what it
captures, as the one that starts programs does. What the run logs is its account, text by text; each
text in it that has to start a line is logged when the transcript is empty or ends with a newline.
A run whose root is not a directory logs nothing. -/
theorem runMatrix_starts_lines (takes : console.Reliable) (takes' : transcript.Reliable)
    (start : Place) (files : FileSystem π) (c : γ) (t : τ) (r : ρ) (tasks : List (Task π ρ))
    (respond : Responder π ρ) (ends : respond.EndsLines) (config : Config) :
    let s := runAll start console transcript tasks ⟨⟨files, .new c t r⟩, false⟩
    let host := host start console transcript respond
    let history := host.history config s
    (∀ {ω : Type} (launcher : Child.Launcher π ω) command ctx w result w',
      launcher.run command ctx w = (.ok result, w') →
      Text.AtLineStart (Text.encode result.errorText)) ∧
    (s.world.files.isDirectory start config.projectRoot = true →
      ∃ legs, Records (account s.headed legs (host.runMatrix config s).1) history ∧
        ∀ before text after, account s.headed legs (host.runMatrix config s).1
            = before ++ .logged text :: after → StartsLine text →
          ∃ earlier block later, history = earlier ++ block ++ later ∧ Records before earlier ∧
            Logs text block (.ok ()) ∧
            Text.AtLineStart
              (s.world.gear.transcript.taken.toList ++ accepted .transcript earlier)) ∧
    (¬s.world.files.isDirectory start config.projectRoot = true → history = []) := by
  intro s host history
  have known : Headed s := (headed_new files c t r).runAll takes takes' start tasks
  refine ⟨fun launcher command ctx w result w' => launcher.endsLines, fun root => ?_,
    host.history_of_not_root config⟩
  obtain ⟨legs, records, answers⟩ :=
    host.records_history config (reliable_sink takes takes') root
  refine ⟨legs, records, fun before text after split starts => ?_⟩
  -- the diary is cut where the account is
  rw [split] at records
  obtain ⟨earlier, rest, cut, begun, more⟩ := records.of_append
  cases more with
  | @logged _ block _ later logs more =>
    refine ⟨earlier, block, later, ?_, begun, logs, ?_⟩
    · rw [List.append_assoc]
      exact cut
    rw [begun.accepted_eq]
    refine atLineStart_of_startsLine ?_ known.nothing split starts
    intro leg mem deed mem' result ok
    obtain ⟨v, answer⟩ := answers leg mem deed mem'
    exact ends deed.call v.gear.runner v.files result (answer.symm.trans ok)

theorem endsLines_thirdFails : thirdFails.EndsLines := by
  intro call r files result ok
  obtain rfl := Except.ok.inj ok
  exact (by decide : Text.AtLineStart (Text.encode "third\n"))

theorem runMatrix_starts_lines_rootProject :
    Outlet.boundless.Reliable ∧ thirdFails.EndsLines ∧
    let s := runAll .root Outlet.boundless Outlet.boundless [⟨rootProject, thirdFails⟩] untouched
    let host := host .root Outlet.boundless Outlet.boundless thirdFails
    let history := host.history rootProject s
    s.world.files.isDirectory .root rootProject.projectRoot = true ∧
    ∃ legs, Records (account s.headed legs (host.runMatrix rootProject s).1) history ∧
      ∀ before text after, account s.headed legs (host.runMatrix rootProject s).1
          = before ++ .logged text :: after → StartsLine text →
        ∃ earlier block later, history = earlier ++ block ++ later ∧ Records before earlier ∧
          Logs text block (.ok ()) ∧
          Text.AtLineStart
            (s.world.gear.transcript.taken.toList ++ accepted .transcript earlier) := by
  refine ⟨Outlet.reliable_boundless, endsLines_thirdFails, ?_⟩
  intro s host history
  have root : untouched.world.files.isDirectory .root rootProject.projectRoot = true := by decide
  obtain ⟨_, -, first, -⟩ := runMatrix_traces Outlet.reliable_boundless
    Outlet.reliable_boundless .root thirdFails rootProject untouched root
  have files : s.world.files = untouched.world.files :=
    (congrArg Prod.snd first.left).trans (after_thirdFails _ _)
  have root' : s.world.files.isDirectory .root rootProject.projectRoot = true := by rwa [files]
  obtain ⟨-, logged, -⟩ := runMatrix_starts_lines Outlet.reliable_boundless
    Outlet.reliable_boundless .root .empty () () 0 [⟨rootProject, thirdFails⟩] thirdFails
    endsLines_thirdFails rootProject
  exact ⟨root', logged root'⟩

end Bench

end Orchestrator
