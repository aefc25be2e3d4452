import Orchestrator.Proofs.Trace

namespace Orchestrator

/-!
# The plan — what a run asks of its runner

The runner may be any function of its own state and the file system: it may change both with every
call, and answer with any exit code, any text or any fault.

* `Responder.Traces.passed` — a run passes if every command succeeds and the examples can always be
  listed.
* `Bench.runMatrix_carries_out_plan` — the calls of a run are its plan, cut after the first thing
  that does not pass, and the verdict says what that was.
-/

variable {π γ τ ρ : Type}

/-! ### Runs in which nothing fails -/

/-- A run passes if the runner has every command succeed and never leaves the examples in a state in
which they cannot be listed. -/
theorem Responder.Traces.passed {respond : Responder π ρ} {start : Place} {config : Config}
    {before : ρ × FileSystem π} {legs : List Leg} {verdict : Except Fault Outcome}
    (h : respond.Traces start config before legs verdict)
    (zero : ∀ call r files, ∃ result, (respond call r files).1 = .ok result ∧ result.code = 0)
    (listed : ∀ calls, ∃ names,
      (respond.after before calls).2.list start config.examplesDir = .ok names) :
    verdict = .ok .passed := by
  have succeeds : ∀ leg ∈ legs, ∀ deed ∈ leg.deeds, deed.Passed := by
    intro leg mem deed mem'
    obtain ⟨r, files, answer⟩ := h.exists_answer mem mem'
    rw [Deed.Passed, answer]
    exact zero _ _ _
  -- any other verdict names a leg, and what did not pass in it
  rcases verdict with fault | _ | ⟨compiler, stage⟩
  · obtain ⟨leg, mem, deed, mem', stopped⟩ := (h.stopped_iff fault).1 rfl
    obtain ⟨result, ok, -⟩ := succeeds leg mem deed mem'
    cases stopped.symm.trans ok
  · rfl
  · obtain ⟨leg, mem, failed, -⟩ := (h.failed_iff compiler stage).1 rfl
    rcases failed with unlisted | ⟨deed, mem', result, ok, nonzero⟩
    · obtain ⟨earlier, later, split⟩ := List.append_of_mem mem
      have requires := h.found earlier leg later split
      obtain ⟨names, found⟩ := listed (earlier.flatMap Leg.calls)
      rw [unlisted, found] at requires
      obtain ⟨-, cause, refused⟩ := requires.exists_refused
      cases refused
    · obtain ⟨result', ok', zero⟩ := succeeds leg mem deed mem'
      obtain rfl := Except.ok.inj (ok.symm.trans ok')
      exact absurd zero nonzero

namespace Bench

variable {console : Outlet γ} {transcript : Outlet τ}

/-- **A run carries out its plan.** With devices that do not fail, in a project whose root is a
directory, the calls are those of the legs of a plan that is cut after the first thing that does not
pass (`CarriesOut`). What each stage has to have run (`Stage.Requires`) is settled by the files as
all calls before it have left them. The runner and the file system end as all calls leave them. -/
theorem runMatrix_carries_out_plan (takes : console.Reliable) (takes' : transcript.Reliable)
    (start : Place) (respond : Responder π ρ) (config : Config)
    (s : Session (World π (Bench γ τ ρ)))
    (root : s.world.files.isDirectory start config.projectRoot = true) :
    let host := host start console transcript respond
    let run := host.runMatrix config s
    let before := (s.world.gear.runner, s.world.files)
    ∃ legs : List Leg,
      respond.Traces start config before legs run.1 ∧
      run.2.world.gear.calls.toList = s.world.gear.calls.toList ++ legs.flatMap Leg.calls ∧
      (run.2.world.gear.runner, run.2.world.files)
        = respond.after before (legs.flatMap Leg.calls) := by
  intro host run before
  obtain ⟨legs, traces, grown, _⟩ := runMatrix_traces takes takes' start respond config s root
  exact ⟨legs, traces, grown.calls, grown.left⟩

/-! ### A run that builds what it runs -/

/-- The directory of the examples, before any was built: a makefile and an example for humans. -/
def unbuilt : FileSystem Unit :=
  ((FileSystem.empty.addDirectory [Text.encode "ex"]).put
      [Text.encode "ex", Text.encode "Makefile"] (.file ⟨7, [], false, none⟩)).put
    [Text.encode "ex", Text.encode "example_a_human_only"] (.file ⟨8, [], true, some ()⟩)

/-- The same with one example more. -/
def built : FileSystem Unit :=
  unbuilt.put [Text.encode "ex", Text.encode "example_a"] (.file ⟨9, [], true, some ()⟩)

/-- A runner that has every command succeed. Its `make mce_ex` builds an example. -/
def building : Responder Unit Unit := fun call _ files =>
  (.ok ⟨0, ""⟩, (), if call.command = ⟨"make", ["mce_ex"]⟩ then built else files)

/-- A project at the root of the file system that is built under one toolchain only. -/
def underGcc : Config := { rootProject with toolchains := [.gcc] }

/-- The example is there once it was built. -/
theorem after_building (calls : List Call) (before : Unit × FileSystem Unit) :
    (building.after before calls).2
      = if ⟨"make", ["mce_ex"]⟩ ∈ calls.map Call.command then built else before.2 := by
  induction calls generalizing before with
  | nil => rfl
  | cons call rest ih =>
    rw [Responder.after_cons, ih, building, List.map_cons]
    by_cases builds : call.command = ⟨"make", ["mce_ex"]⟩
    · simp [builds]
    · simp [builds, Ne.symm builds]

/-- What is listed before and after the example is built. -/
theorem list_building :
    unbuilt.list .root underGcc.examplesDir
      = .ok [Text.encode "example_a_human_only", Text.encode "Makefile"] ∧
    built.list .root underGcc.examplesDir
      = .ok ([Text.encode "example_a", Text.encode "example_a_human_only",
        Text.encode "Makefile"]) := by
  constructor <;> exact ok_of_toOption (by decide +kernel)

/-- Where the example was built, it is what has to be run, and the one for humans is not. -/
theorem requires_built : Stage.Requires underGcc (built.list .root underGcc.examplesDir)
    .runExamples (some [⟨"/ex/example_a", []⟩]) := by
  -- one of the three names is that of an example
  have wanted : ([Text.encode "example_a", Text.encode "example_a_human_only",
      Text.encode "Makefile"].map Text.decode).filter underGcc.exampleFilter.accepts
        = ["example_a"] := by decide +kernel
  have finds := underGcc.exampleFilter.finds_select [Text.encode "example_a",
    Text.encode "example_a_human_only", Text.encode "Makefile"]
  rw [ExampleFilter.select, wanted, List.mergeSort_singleton] at finds
  have path : (underGcc.examplesDir.child "example_a").display = "/ex/example_a" := by
    decide +kernel
  have required := Stage.Requires.runExamples list_building.2 finds
  rwa [List.map_singleton, path] at required

/-- Every run of this project with this runner passes. -/
theorem passed_building {legs : List Leg} {verdict : Except Fault Outcome}
    (traces : building.Traces .root underGcc ((), unbuilt) legs verdict) :
    verdict = .ok .passed := by
  refine traces.passed (fun _ _ _ => ⟨⟨0, ""⟩, rfl, rfl⟩) fun calls => ?_
  rw [after_building]
  split
  · exact ⟨_, list_building.2⟩
  · exact ⟨_, list_building.1⟩

/-- What is called where the makefile builds one example. -/
def buildingCalls : List Call :=
  [⟨"cmake", ["/"]⟩, ⟨"make", ["mce_ut"]⟩, ⟨"./tst/mce_ut", []⟩,
    ⟨"cmake", ["/"]⟩, ⟨"make", ["mce_ut_minimal"]⟩, ⟨"./tst/mce_ut_minimal", []⟩,
    ⟨"make", ["clean"]⟩, ⟨"make", ["mce_ex"]⟩, ⟨"/ex/example_a", []⟩].map
  fun command => ⟨command, ⟨some ⟨[Path.slash]⟩, [("CC", "/usr/bin/gcc"), ("CXX", "/usr/bin/g++")]⟩⟩

/-- Every run of this project with this runner makes the same calls. -/
theorem calls_building {legs : List Leg} {verdict : Except Fault Outcome}
    (traces : building.Traces .root underGcc ((), unbuilt) legs verdict) :
    legs.flatMap Leg.calls = buildingCalls := by
  obtain ⟨rows, each⟩ := traces.passed_iff.1 (passed_building traces)
  -- the whole plan was gone through, and each stage has made all the calls that it had to make
  obtain ⟨⟨_, _, ca, da⟩, ⟨_, _, cb, db⟩, ⟨_, _, cc, dc⟩, ⟨_, _, cd, dd⟩, rfl⟩ :
      ∃ a b c d, legs = [a, b, c, d] := by
    match legs, congrArg List.length rows with
    | [a, b, c, d], _ => exact ⟨a, b, c, d, rfl⟩
  simp only [Config.plan, underGcc, List.flatMap_cons, List.flatMap_nil, List.map_cons,
    List.map_nil, List.append_nil, List.cons.injEq, Leg.row, Prod.mk.injEq, and_true] at rows
  obtain ⟨⟨rfl, rfl⟩, ⟨rfl, rfl⟩, ⟨rfl, rfl⟩, rfl, rfl⟩ := rows
  have first := (each _ (by simp)).calls_eq (traces.found [] _ _ rfl) .unitTests
  have second := (each _ (by simp)).calls_eq (traces.found [_] _ _ rfl) .minimalUnitTests
  have third := (each _ (by simp)).calls_eq (traces.found [_, _] _ _ rfl) .buildExamples
  have found := traces.found [_, _, _] _ [] rfl
  -- the last stage finds the example that the one before has built
  have there : (building.after ((), unbuilt) ([⟨.gcc, .unitTests, ca, da⟩,
      ⟨.gcc, .minimalUnitTests, cb, db⟩, ⟨.gcc, .buildExamples, cc, dc⟩].flatMap Leg.calls)).2
        = built := by
    rw [after_building, if_pos]
    simp [third, underGcc, rootProject, Config.forProject]
  have fourth := (each _ (by simp)).calls_eq found (there ▸ requires_built)
  rw [List.flatMap_cons, List.flatMap_cons, List.flatMap_cons, List.flatMap_cons, first, second,
    third, fourth]
  dsimp only
  decide +kernel

theorem runMatrix_carries_out_plan_building :
    let s : Session (World Unit (Bench Unit Unit Unit)) := ⟨⟨unbuilt, .new () () ()⟩, false⟩
    let run := (host .root Outlet.boundless Outlet.boundless building).runMatrix underGcc s
    s.world.files.isDirectory .root underGcc.projectRoot = true ∧ Outlet.boundless.Reliable ∧
    (∃ legs : List Leg, building.Traces .root underGcc ((), unbuilt) legs run.1 ∧
      run.2.world.gear.calls.toList = legs.flatMap Leg.calls) ∧
    run.1 = .ok .passed ∧ run.2.world.gear.calls.toList = buildingCalls ∧
    run.2.world.files = built := by
  intro s run
  have root : s.world.files.isDirectory .root underGcc.projectRoot = true := by decide +kernel
  obtain ⟨legs, traces, calls, left⟩ := runMatrix_carries_out_plan Outlet.reliable_boundless
    Outlet.reliable_boundless .root building underGcc s root
  have files : run.2.world.files = (building.after ((), unbuilt) _).2 := congrArg Prod.snd left
  have all : run.2.world.gear.calls.toList = buildingCalls := calls.trans (calls_building traces)
  refine ⟨root, Outlet.reliable_boundless, ⟨legs, traces, calls⟩, passed_building traces, all, ?_⟩
  rw [files, after_building, calls_building traces, if_pos (by decide)]

end Bench

end Orchestrator
