import Orchestrator.Matrix

namespace Orchestrator

/-!
# Courses — what a run of the matrix consists of

A run told without its log: which stages were begun under which toolchains, which commands were
found for them, and what the runner answered.

* `Deed` — a command that was run, and the answer.
* `Leg` — one stage under one toolchain: the commands found when it began, and the deeds.
* `Carried` — commands run in order up to the first that does not succeed.
* `Course` — a plan followed in order up to the first stage that does not pass.
* `Carried.tells_iff`, `Course.tells_iff` — the verdict can be read off the deeds, and off the legs:
  exactly one fits them.
-/

/-! ### Deeds and legs -/

/-- A command that was run, and how the runner answered. -/
structure Deed where
  call : Call
  answer : Except Fault CommandResult

namespace Deed

/-- The command exited with zero. -/
def Passed (deed : Deed) : Prop := ∃ result, deed.answer = .ok result ∧ result.code = 0

/-- The command exited with another code. -/
def Failed (deed : Deed) : Prop := ∃ result, deed.answer = .ok result ∧ result.code ≠ 0

@[simp] theorem passed_ok (call : Call) (result : CommandResult) :
    Passed ⟨call, .ok result⟩ ↔ result.code = 0 := by simp [Passed]

@[simp] theorem failed_ok (call : Call) (result : CommandResult) :
    Failed ⟨call, .ok result⟩ ↔ result.code ≠ 0 := by simp [Failed]

@[simp] theorem not_passed_error (call : Call) (fault : Fault) :
    ¬Passed ⟨call, .error fault⟩ := by simp [Passed]

@[simp] theorem not_failed_error (call : Call) (fault : Fault) :
    ¬Failed ⟨call, .error fault⟩ := by simp [Failed]

end Deed

/-- One stage under one toolchain. `commands?` is what was found to be done when the stage began. -/
structure Leg where
  toolchain : Toolchain
  stage : Stage
  commands? : Option (List CommandLine)
  deeds : List Deed

/-- Where the commands under a toolchain run: in the project root, and with its two compilers. -/
def Config.contextOf (config : Config) (t : Toolchain) : Context :=
  ⟨some config.projectRoot, [("CC", t.cc), ("CXX", t.cxx)]⟩

/-- All that a project has to go through: every stage under every toolchain, in order. -/
def Config.plan (config : Config) : List (Toolchain × Stage) :=
  config.toolchains.flatMap fun t =>
    [(t, .unitTests), (t, .minimalUnitTests), (t, .buildExamples), (t, .runExamples)]

namespace Leg

variable (config : Config) (leg : Leg)

/-- The part of the plan that the leg is about. -/
def row : Toolchain × Stage := (leg.toolchain, leg.stage)

/-- The calls that were made. -/
def calls : List Call := leg.deeds.map Deed.call

/-- The calls that were to be made; none if nothing could be found. -/
def planned : List Call :=
  (leg.commands?.getD []).map fun command => ⟨command, config.contextOf leg.toolchain⟩

/-- Commands were found, all of them were run, and all succeeded. -/
def Passed : Prop :=
  leg.commands?.isSome ∧ leg.calls = leg.planned config ∧ ∀ deed ∈ leg.deeds, deed.Passed

/-- No commands could be found, or one of them did not succeed. -/
def Failed : Prop := leg.commands? = none ∨ ∃ deed ∈ leg.deeds, deed.Failed

/-- The runner ended with a fault. -/
def StoppedBy (fault : Fault) : Prop := ∃ deed ∈ leg.deeds, deed.answer = .error fault

end Leg

/-! ### Commands carried out in order -/

/-- `Carried ctx commands deeds verdict`: the commands were run in order up to the first that did
not succeed; the verdict tells whether all did, or the fault that ended it. -/
inductive Carried (ctx : Context) :
    List CommandLine → List Deed → Except Fault Bool → Prop where
  | all : Carried ctx [] [] (.ok true)
  | passed {command rest result deeds verdict} (zero : result.code = 0)
      (more : Carried ctx rest deeds verdict) :
      Carried ctx (command :: rest) (⟨⟨command, ctx⟩, .ok result⟩ :: deeds) verdict
  | failed {command rest result} (nonzero : result.code ≠ 0) :
      Carried ctx (command :: rest) [⟨⟨command, ctx⟩, .ok result⟩] (.ok false)
  | stopped {command rest fault} :
      Carried ctx (command :: rest) [⟨⟨command, ctx⟩, .error fault⟩] (.error fault)

namespace Carried

variable {ctx : Context} {commands : List CommandLine} {deeds : List Deed}
  {verdict : Except Fault Bool}

/-- The calls are the first commands, each in the given context. -/
theorem calls_prefix (h : Carried ctx commands deeds verdict) :
    deeds.map Deed.call <+: commands.map fun command => ⟨command, ctx⟩ := by
  induction h with
  | all => exact List.nil_prefix
  | passed zero more ih => exact (List.prefix_cons_inj _).2 ih
  | failed nonzero => simp
  | stopped => simp

/-- What does not succeed is the last to be run. -/
theorem passed_of_mem_dropLast (h : Carried ctx commands deeds verdict) :
    ∀ deed ∈ deeds.dropLast, deed.Passed := by
  induction h with
  | all => simp
  | @passed command rest result deeds verdict zero more ih =>
    -- a deed that another one follows is not the last, and passed
    cases deeds with
    | nil => simp
    | cons second others =>
      rw [List.dropLast_cons_of_ne_nil (List.cons_ne_nil _ _)]
      exact List.forall_mem_cons.2 ⟨(Deed.passed_ok _ _).2 zero, ih⟩
  | failed nonzero => simp
  | stopped => simp

/-- Exactly one verdict fits the deeds. -/
theorem tells_iff (h : Carried ctx commands deeds verdict) (told : Except Fault Bool) :
    (match told with
      | .ok true => deeds.map Deed.call = commands.map (fun command => ⟨command, ctx⟩) ∧
          ∀ deed ∈ deeds, deed.Passed
      | .ok false => ∃ deed ∈ deeds, deed.Failed
      | .error fault => ∃ deed ∈ deeds, deed.answer = .error fault) ↔ told = verdict := by
  -- a command that passed adds itself to both sides of every condition
  -- in each case all verdicts are gone through; the last leg settles which one is told
  induction h with
  | all => rcases told with fault | _ | _ <;> simp
  | passed zero more ih => rw [← ih]; rcases told with fault | _ | _ <;> simp [zero]
  | failed nonzero => rcases told with fault | _ | _ <;> simp [nonzero]
  | stopped =>
    rcases told with fault | _ | _
    · simpa using eq_comm
    · simp
    · simp

end Carried

/-! ### Legs one after another -/

/-- The leg went as its commands and the answers let it: a stage whose commands could not be found
did not pass, and nothing was run for it. -/
def Leg.Ended (config : Config) (leg : Leg) (verdict : Except Fault Bool) : Prop :=
  match leg.commands? with
  | none => leg.deeds = [] ∧ verdict = .ok false
  | some commands => Carried (config.contextOf leg.toolchain) commands leg.deeds verdict

namespace Leg

variable {config : Config} {leg : Leg} {verdict : Except Fault Bool}

/-- The calls of a leg are the first of those that were to be made. -/
theorem calls_prefix (h : leg.Ended config verdict) : leg.calls <+: leg.planned config := by
  obtain ⟨toolchain, stage, _ | commands, deeds⟩ := leg
  · obtain ⟨rfl, rfl⟩ := h
    exact List.nil_prefix
  · exact Carried.calls_prefix h

/-- What does not succeed is the last to be run in its leg. -/
theorem passed_of_mem_dropLast (h : leg.Ended config verdict) :
    ∀ deed ∈ leg.deeds.dropLast, deed.Passed := by
  obtain ⟨toolchain, stage, _ | commands, deeds⟩ := leg
  · obtain ⟨rfl, rfl⟩ := h
    simp
  · exact Carried.passed_of_mem_dropLast h

/-- A leg passed just if that is how it ended. -/
theorem passed_iff (h : leg.Ended config verdict) : leg.Passed config ↔ verdict = .ok true := by
  obtain ⟨toolchain, stage, _ | commands, deeds⟩ := leg
  · obtain ⟨rfl, rfl⟩ := h
    simp [Passed]
  · rw [eq_comm, ← Carried.tells_iff h (.ok true)]
    simp [Passed, calls, planned]

/-- A leg failed just if that is how it ended. -/
theorem failed_iff (h : leg.Ended config verdict) : leg.Failed ↔ verdict = .ok false := by
  obtain ⟨toolchain, stage, _ | commands, deeds⟩ := leg
  · obtain ⟨rfl, rfl⟩ := h
    simp [Failed]
  · rw [eq_comm, ← Carried.tells_iff h (.ok false)]
    simp [Failed]

/-- A leg was stopped by a fault just if it ended with that fault. -/
theorem stoppedBy_iff (h : leg.Ended config verdict) (fault : Fault) :
    leg.StoppedBy fault ↔ verdict = .error fault := by
  obtain ⟨toolchain, stage, _ | commands, deeds⟩ := leg
  · obtain ⟨rfl, rfl⟩ := h
    simp [StoppedBy]
  · rw [eq_comm, ← Carried.tells_iff h (.error fault)]
    simp [StoppedBy]

end Leg

/-- `Course config rows legs verdict`: the stages of `rows` were gone through in order, up to the
first that did not pass. -/
inductive Course (config : Config) :
    List (Toolchain × Stage) → List Leg → Except Fault Outcome → Prop where
  | finished : Course config [] [] (.ok .passed)
  | passed {leg rows legs verdict} (ended : leg.Ended config (.ok true))
      (more : Course config rows legs verdict) :
      Course config (leg.row :: rows) (leg :: legs) verdict
  | failed {leg rows} (ended : leg.Ended config (.ok false)) :
      Course config (leg.row :: rows) [leg] (.ok (.failed leg.toolchain.id leg.stage))
  | stopped {leg rows fault} (ended : leg.Ended config (.error fault)) :
      Course config (leg.row :: rows) [leg] (.error fault)

namespace Course

variable {config : Config} {rows : List (Toolchain × Stage)} {legs : List Leg}
  {verdict : Except Fault Outcome}

/-- The legs are the first stages of the plan. -/
theorem rows_prefix (h : Course config rows legs verdict) : legs.map Leg.row <+: rows := by
  induction h with
  | finished => exact List.nil_prefix
  | passed ended more ih => exact (List.prefix_cons_inj _).2 ih
  | failed ended => simp
  | stopped ended => simp

/-- The calls of every leg are the first of those that were to be made in it. -/
theorem calls_prefix (h : Course config rows legs verdict) :
    ∀ leg ∈ legs, leg.calls <+: leg.planned config := by
  induction h with
  | finished => simp
  | passed ended more ih => exact List.forall_mem_cons.2 ⟨Leg.calls_prefix ended, ih⟩
  | failed ended => simpa using Leg.calls_prefix ended
  | stopped ended => simpa using Leg.calls_prefix ended

/-- A stage that does not pass is the last to be begun. -/
theorem passed_of_mem_dropLast (h : Course config rows legs verdict) :
    ∀ leg ∈ legs.dropLast, leg.Passed config := by
  induction h with
  | finished => simp
  | @passed leg rows legs verdict ended more ih =>
    cases legs with
    | nil => simp
    | cons second others =>
      rw [List.dropLast_cons_of_ne_nil (List.cons_ne_nil _ _)]
      exact List.forall_mem_cons.2 ⟨(Leg.passed_iff ended).2 rfl, ih⟩
  | failed ended => simp
  | stopped ended => simp

/-- Nothing is run after a command that does not succeed. -/
theorem deed_passed_of_mem_dropLast (h : Course config rows legs verdict) :
    ∀ deed ∈ (legs.flatMap Leg.deeds).dropLast, deed.Passed := by
  induction h with
  | finished => simp
  | @passed leg rows legs verdict ended more ih =>
    have all : ∀ deed ∈ leg.deeds, deed.Passed := ((Leg.passed_iff ended).2 rfl).2.2
    intro deed mem
    rw [List.flatMap_cons] at mem
    -- the last deed is in this leg only if no deed follows it
    by_cases none : legs.flatMap Leg.deeds = []
    · rw [none, List.append_nil] at mem
      exact all deed (List.dropLast_subset _ mem)
    · rw [List.dropLast_append_of_ne_nil none, List.mem_append] at mem
      exact mem.elim (all deed) (ih deed)
  | failed ended => simpa using Leg.passed_of_mem_dropLast ended
  | stopped ended => simpa using Leg.passed_of_mem_dropLast ended

/-- What the legs of a course tell about it. -/
def Tells (config : Config) (rows : List (Toolchain × Stage)) (legs : List Leg) :
    Except Fault Outcome → Prop
  | .ok .passed => legs.map Leg.row = rows ∧ ∀ leg ∈ legs, leg.Passed config
  | .ok (.failed compiler stage) =>
    ∃ leg ∈ legs, leg.Failed ∧ leg.toolchain.id = compiler ∧ leg.stage = stage
  | .error fault => ∃ leg ∈ legs, leg.StoppedBy fault

/-- Exactly one verdict fits the legs of a course. -/
theorem tells_iff (h : Course config rows legs verdict) (told : Except Fault Outcome) :
    Tells config rows legs told ↔ told = verdict := by
  induction h with
  | finished => rcases told with fault | _ | _ <;> simp [Tells]
  | passed ended more ih =>
    rw [← ih]
    rcases told with fault | _ | _ <;>
      simp [Tells, Leg.passed_iff ended, Leg.failed_iff ended, Leg.stoppedBy_iff ended]
  | failed ended =>
    rcases told with fault | _ | _ <;>
      simp [Tells, Leg.passed_iff ended, Leg.failed_iff ended, Leg.stoppedBy_iff ended, eq_comm]
  | stopped ended =>
    rcases told with fault | _ | _ <;>
      simp [Tells, Leg.passed_iff ended, Leg.failed_iff ended, Leg.stoppedBy_iff ended, eq_comm]

end Course

end Orchestrator
