import Orchestrator.Runner

namespace Orchestrator

/-!
# Validation — commands under the eyes of a log

* `validate` — one command between the line that announces it and the lines that tell its result.
* `validateAll` — commands in order, up to the first that does not succeed.
-/

variable {σ : Type} (sink : Sink σ) (runner : Runner σ)

/-- Run one command and log it; tells whether it succeeded. -/
def validate (command : CommandLine) (ctx : Context) : Logged σ Bool := do
  sink.announce command.display
  let result ← (runner.execute command ctx).within (Session.part σ)
  sink.result result.code command.display result.errorText
  pure result.passed

/-- Run commands in order and stop at the first that does not succeed; tells whether all did. -/
def validateAll (ctx : Context) : List CommandLine → Logged σ Bool
  | [] => pure true
  | command :: rest => do
    if ← validate sink runner command ctx then validateAll ctx rest else pure false

@[simp] theorem validateAll_nil (ctx : Context) :
    validateAll sink runner ctx [] = pure true := rfl

theorem validateAll_cons (ctx : Context) (command : CommandLine) (rest : List CommandLine) :
    validateAll sink runner ctx (command :: rest) = (do
      if ← validate sink runner command ctx then validateAll sink runner ctx rest
      else pure false) := rfl

end Orchestrator
