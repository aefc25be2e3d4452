import Orchestrator.Fault
import Orchestrator.Outlet

namespace Orchestrator

/-!
# Sinks — the log of a run

Whatever a run logs goes to two outlets, the console first and then the transcript, and each is
passed on at once, so that an interrupted run keeps what was logged so far.

* `Banner` — the tags of fixed width that begin the lines of a log.
* `Session` — the world that both outlets work on, and whether a heading was logged in it.
* `Sink.log` — a text on both outlets. The transcript is not touched if the console fails.
* `Sink.heading`, `Sink.announce`, `Sink.result` — the lines that a log is made of.
* `Sink.enter` — any of them, given as an `Entry`.
-/

/-- The tags that begin the lines of a log. -/
inductive Banner where
  | separator
  | run
  | ok
  | stderr
  | failed
  deriving DecidableEq, Repr

namespace Banner

/-- The text of a tag; all have the same width. -/
def text : Banner → String
  | separator => "[----------] "
  | run => "[ RUN      ] "
  | ok => "[       OK ] "
  | stderr => "[  STDERR  ] "
  | failed => "[  FAILED  ] "

/-- A line that begins with a tag. -/
def line (banner : Banner) (rest : String) : String := banner.text ++ rest ++ "\n"

example : ∀ b : Banner, b.text.length = 13 := by rintro ⟨⟩ <;> decide

end Banner

/-- A world in which a run is logged, and whether a heading was logged in it before. -/
structure Session (σ : Type) where
  world : σ
  headed : Bool
  deriving Repr

/-- The world of a session as a part of it. -/
def Session.part (σ : Type) : Part (Session σ) σ Bool where
  split s := match s with | ⟨world, headed⟩ => (world, headed)
  join world headed := ⟨world, headed⟩
  split_join _ _ := rfl
  join_split _ := rfl

/-- What can be logged. -/
inductive Entry where
  /-- A text as it is. -/
  | text (text : String)
  /-- The heading of a section. -/
  | heading (title : String)
  /-- A command that is about to run. -/
  | announcement (command : String)
  /-- How a command ended. -/
  | result (code : Int) (command errorText : String)
  deriving DecidableEq, Repr

/-- The two outlets of a log. -/
structure Sink (σ : Type) where
  console : Outlet σ
  transcript : Outlet σ

/-- An action in a session that may end with a fault. -/
abbrev Logged (σ α : Type) : Type := Action (Session σ) Fault α

namespace Sink

variable {σ : Type} (sink : Sink σ)

/-- Log a text as it is. -/
def log (text : String) : Logged σ Unit :=
  Action.within (Session.part σ) do
    (sink.console.emit text).mapError .console
    (sink.transcript.emit text).mapError .transcript

/-- Note that a heading is logged. -/
def markHeaded : Logged σ Unit := fun s => (.ok (), { s with headed := true })

/-- Log the heading of a section. An empty line keeps it apart from what came before, unless it is
the first heading. -/
def heading (title : String) : Logged σ Unit := fun s =>
  if s.headed then (do sink.log "\n"; sink.log (Banner.separator.line title)) s
  else (do markHeaded; sink.log (Banner.separator.line title)) s

/-- Log that a command is about to run. -/
def announce (command : String) : Logged σ Unit :=
  sink.log (Banner.run.line command)

/-- The last line about a command that did not succeed. -/
def codeLine (code : Int) : String := "    ErrorCode: " ++ toString code ++ "\n"

/-- Log how a command ended: one line if it succeeded, else its error text between banners and its
exit code. -/
def result (code : Int) (command errorText : String) : Logged σ Unit :=
  if code = 0 then sink.log (Banner.ok.line command)
  else do
    sink.log (Banner.separator.line "")
    sink.log (Banner.stderr.line "")
    sink.log errorText
    sink.log (Banner.failed.line command)
    sink.log (codeLine code)

/-- Log an entry. -/
def enter : Entry → Logged σ Unit
  | .text text => sink.log text
  | .heading title => sink.heading title
  | .announcement command => sink.announce command
  | .result code command errorText => sink.result code command errorText

/-- Pass on whatever the outlets still hold. -/
def finish : Logged σ Unit :=
  Action.within (Session.part σ) do
    sink.console.flush.mapError .console
    sink.transcript.flush.mapError .transcript

end Sink

end Orchestrator
