import Orchestrator.Matrix
import Orchestrator.Proofs.Selection

namespace Orchestrator

/-!
# Commands — what a stage has to have run

Three of the four stages have the same commands in every project, but for its root and its targets.
The last one runs the examples, and these are whatever the directory lists when the stage is begun.

* `ExampleFilter.Finds` — some names are those of the examples in a listing, in ascending order.
* `Stage.Requires` — what a stage has to have run, told word by word and from a listing alone.
* `Stage.Requires.unique` — that leaves one list of commands.
* `Host.requires_stageCommands?` — it is the one that a run looks up.
-/

/-! ### The examples in a listing -/

/-- Of the entries of a directory, as they are listed, some names are those of the examples: of each
name that contains the one text and does not contain the other as many as there are entries whose
bytes read so, in ascending order of their code points. -/
structure ExampleFilter.Finds (f : ExampleFilter) (entries : List Bytes) (found : List String) :
    Prop where
  each : ∀ name, found.count name =
    if f.include_.toList <:+: name.toList ∧ ¬f.exclude.toList <:+: name.toList
      then (entries.map Text.decode).count name else 0
  ascending : found.Pairwise fun a b => Text.codePoints a ≤ Text.codePoints b

namespace ExampleFilter

variable {f : ExampleFilter} {entries : List Bytes} {found found' : List String}

/-- Only one list of names is that of the examples. -/
theorem Finds.unique (h : f.Finds entries found) (h' : f.Finds entries found') :
    found = found' := by
  have same : found.Perm found' := List.perm_iff_count.2 fun name => by rw [h.each, h'.each]
  -- two names that come before each other have the same code points, and so they are the same
  refine same.eq_of_pairwise (fun a b _ _ le le' => ?_) h.ascending h'.ascending
  exact String.le_antisymm (Text.codePoints_le_iff.1 le) (Text.codePoints_le_iff.1 le')

/-- What is selected from a listing are the examples in it. -/
theorem finds_select (f : ExampleFilter) (entries : List Bytes) :
    f.Finds entries (f.select (entries.map Text.decode)) where
  each _ := count_select
  ascending := (f.pairwise_select _).imp Text.codePoints_le_iff.2

end ExampleFilter

/-! ### Stages -/

/-- `Stage.Requires config listing stage commands?`: where the directory of the examples is listed
as `listing`, a stage has to have these commands run. If it cannot be listed, running the examples
has no commands, not even none. -/
inductive Stage.Requires (config : Config) (listing : Except Cause (List Bytes)) :
    Stage → Option (List CommandLine) → Prop where
  /-- The project is configured, the unit tests are built, and they are run. -/
  | unitTests : Requires config listing .unitTests <| some
      [⟨"cmake", [config.projectRoot.display]⟩, ⟨"make", [config.unitTestTarget]⟩,
        ⟨"./" ++ config.testDir ++ "/" ++ config.unitTestTarget, []⟩]
  /-- The same is done for the unit tests with the least dependencies. -/
  | minimalUnitTests : Requires config listing .minimalUnitTests <| some
      [⟨"cmake", [config.projectRoot.display]⟩, ⟨"make", [config.minimalUnitTestTarget]⟩,
        ⟨"./" ++ config.testDir ++ "/" ++ config.minimalUnitTestTarget, []⟩]
  /-- What was built is taken away, and the examples are built. -/
  | buildExamples : Requires config listing .buildExamples <| some
      [⟨"make", ["clean"]⟩, ⟨"make", [config.examplesTarget]⟩]
  /-- Each example is run by its path, without arguments. -/
  | runExamples {entries found} (listed : listing = .ok entries)
      (finds : config.exampleFilter.Finds entries found) :
      Requires config listing .runExamples <| some <|
        found.map fun name => ⟨(config.examplesDir.child name).display, []⟩
  /-- Examples that cannot be looked up cannot be run. -/
  | unlisted {cause} (refused : listing = .error cause) : Requires config listing .runExamples none

/-- A stage has one list of commands to have run, or none at all. -/
theorem Stage.Requires.unique {config : Config} {listing : Except Cause (List Bytes)}
    {stage : Stage} {commands? commands?' : Option (List CommandLine)}
    (h : stage.Requires config listing commands?) (h' : stage.Requires config listing commands?') :
    commands? = commands?' := by
  cases h with
  | unitTests | minimalUnitTests | buildExamples =>
    cases h'
    rfl
  | runExamples listed finds =>
    -- the listing tells which of the two rules applies
    subst listed
    cases h' with
    | runExamples listed' finds' =>
      cases listed'
      rw [finds.unique finds']
    | unlisted refused => cases refused
  | unlisted refused =>
    subst refused
    cases h' with
    | runExamples listed _ => cases listed
    | unlisted _ => rfl

/-- Only running examples that cannot be looked up has no commands, not even none. -/
theorem Stage.Requires.exists_refused {config : Config} {listing : Except Cause (List Bytes)}
    {stage : Stage} (h : stage.Requires config listing none) :
    stage = .runExamples ∧ ∃ cause, listing = .error cause := by
  cases h with
  | unlisted refused => exact ⟨rfl, _, refused⟩

namespace Host

variable {π ω : Type} (host : Host π ω) (config : Config) (files : FileSystem π) (stage : Stage)

/-- **What is looked up for a stage** is what it has to have run. -/
theorem requires_stageCommands? :
    stage.Requires config (files.list host.start config.examplesDir)
      (host.stageCommands? config files stage) := by
  cases stage with
  | unitTests => exact .unitTests
  | minimalUnitTests => exact .minimalUnitTests
  | buildExamples => exact .buildExamples
  | runExamples =>
    rw [stageCommands?, discover]
    rcases listed : files.list host.start config.examplesDir with cause | entries
    · exact .unlisted rfl
    · -- the paths of the examples are turned into commands one by one
      have paths : (((config.exampleFilter.select (entries.map Text.decode)).map
          config.examplesDir.child).map CommandLine.ofPath)
          = (config.exampleFilter.select (entries.map Text.decode)).map
            fun name => ⟨(config.examplesDir.child name).display, []⟩ := by
        rw [List.map_map]
        rfl
      simp only [paths]
      exact .runExamples rfl (config.exampleFilter.finds_select entries)

/-- A stage has to have run what is looked up for it, and nothing else. -/
theorem requires_iff {commands? : Option (List CommandLine)} :
    stage.Requires config (files.list host.start config.examplesDir) commands? ↔
      commands? = host.stageCommands? config files stage := by
  constructor
  · intro h
    exact h.unique (host.requires_stageCommands? config files stage)
  · rintro rfl
    exact host.requires_stageCommands? config files stage

end Host

end Orchestrator
