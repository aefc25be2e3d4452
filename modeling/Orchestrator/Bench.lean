import Orchestrator.Matrix

namespace Orchestrator

/-!
# Test benches

A bench is a world whose console, transcript and runner have nothing to do with each other: two
devices of any kind, and a runner of any kind that works on the file system and on a state of its
own.

* `Bench` — the state of the three, all that the devices have taken, and all calls of the runner.
* `Responder` — what the runner does with a call.
* `Bench.host` — the host that a run finds on a bench.
-/

/-- Two devices with all they have taken, and a runner with its state and all its calls. -/
structure Bench (γ τ ρ : Type) where
  console : Channel γ
  transcript : Channel τ
  calls : Array Call
  runner : ρ

/-- What a runner does with a call: it answers, and changes its state and the file system. -/
abbrev Responder (π ρ : Type) : Type :=
  Call → ρ → FileSystem π → Except Fault CommandResult × ρ × FileSystem π

namespace Bench

variable {π γ τ ρ : Type}

/-- A bench on which nothing has happened yet. -/
def new (console : γ) (transcript : τ) (runner : ρ) : Bench γ τ ρ :=
  ⟨⟨console, #[]⟩, ⟨transcript, #[]⟩, #[], runner⟩

/-- The console as a part of a bench. -/
def consolePart : Part (Bench γ τ ρ) (Channel γ) (Channel τ × Array Call × ρ) where
  split b := match b with
    | ⟨console, transcript, calls, runner⟩ => (console, transcript, calls, runner)
  join console rest := ⟨console, rest.1, rest.2.1, rest.2.2⟩
  split_join _ _ := rfl
  join_split _ := rfl

/-- The transcript as a part of a bench. -/
def transcriptPart : Part (Bench γ τ ρ) (Channel τ) (Channel γ × Array Call × ρ) where
  split b := match b with
    | ⟨console, transcript, calls, runner⟩ => (transcript, console, calls, runner)
  join transcript rest := ⟨rest.1, transcript, rest.2.1, rest.2.2⟩
  split_join _ _ := rfl
  join_split _ := rfl

/-- The console of a bench as an outlet. -/
def consoleOutlet (device : Outlet γ) : Outlet (World π (Bench γ τ ρ)) :=
  (device.kept.within consolePart).within (World.gearPart π _)

/-- The transcript of a bench as an outlet. -/
def transcriptOutlet (device : Outlet τ) : Outlet (World π (Bench γ τ ρ)) :=
  (device.kept.within transcriptPart).within (World.gearPart π _)

/-- The log of a bench. -/
def sink (console : Outlet γ) (transcript : Outlet τ) : Sink (World π (Bench γ τ ρ)) :=
  ⟨consoleOutlet console, transcriptOutlet transcript⟩

/-- The runner of a bench; it keeps every call. -/
def runnerOf (respond : Responder π ρ) : Runner (World π (Bench γ τ ρ)) where
  execute command ctx := fun w =>
    match w with
    | ⟨files, ⟨console, transcript, calls, runner⟩⟩ =>
      let call : Call := ⟨command, ctx⟩
      match respond call runner files with
      | (outcome, runner, files) =>
        (outcome, ⟨files, ⟨console, transcript, calls.push call, runner⟩⟩)

/-- The host that a run finds on a bench. -/
def host (start : Place) (console : Outlet γ) (transcript : Outlet τ)
    (respond : Responder π ρ) : Host π (Bench γ τ ρ) :=
  ⟨start, sink console transcript, runnerOf respond⟩

/-- Print a line on the console of a bench, whatever its device does. -/
def print (line : String) (w : World π (Bench γ τ ρ)) : World π (Bench γ τ ρ) :=
  match w with
  | ⟨files, ⟨⟨device, taken⟩, transcript, calls, runner⟩⟩ =>
    ⟨files, ⟨⟨device, taken ++ Text.encode (line ++ "\n")⟩, transcript, calls, runner⟩⟩

end Bench

end Orchestrator
