import Orchestrator.Child.Launch
import Orchestrator.Proofs.Boost.Shape
import Orchestrator.Proofs.Path

namespace Orchestrator

/-!
# Places — what the commands of a build name

A build looks at the places of its layout from where it was started. Its commands are given texts
for these places, and they run in directories of their own.

* `Boost.Step.places` — the words of a step's command that name places, and the places they are for.
* `Boost.Names` — a text means to a child what a path means to the build.
* `Bench.ensureBuilt_names` — below an absolute root that is text, all these words do.
* `Bench.Misnames` — below another root, a word may not.
-/

open Boost Workshop

namespace Boost

/-! ### What a text means to a child -/

/-- A child that runs in the context means by the text what the path means where it was started. -/
structure Names (start : Place) (ctx : Context) (text : String) (path : Path) : Prop where
  /-- As a path, the text leads just where the path does, whatever the files are. -/
  leads : ∀ {π : Type} (fs : FileSystem π) (directory : Place) (manner : FileSystem.Manner),
    Child.workingDirectory fs start ctx = .ok directory →
      fs.resolve directory manner (.ofString text) = fs.resolve start manner path ∧
        fs.resolveEntry directory (.ofString text) = fs.resolveEntry start path
  /-- As a program, the text is what the path leads to, and is not looked for anywhere else. -/
  executes : ∀ {π : Type} (site : Child.Site π) (given : Child.Invocation) (reading : Bool)
    (dirs : List Bytes), given.name = Text.encode text →
    Child.workingDirectory site.files start ctx = .ok given.directory →
      site.search given reading dirs = site.execute given path ∧
        site.executable given.directory path = site.executable start path

/-- An absolute path is meant by its text everywhere. -/
theorem names_display {path : Path} (isText : path.IsText) (absolute : path.isAbsolute = true)
    (start : Place) (ctx : Context) : Names start ctx path.display path where
  leads fs directory manner _ := by
    rw [Path.ofString_display isText]
    exact ⟨fs.resolve_of_isAbsolute directory start absolute manner,
      fs.resolveEntry_of_isAbsolute directory start absolute⟩
  executes site given reading dirs name _ := by
    have bytes : given.name = path.bytes := name.trans isText
    have slash : path.bytes.contains Path.slash = true := by
      have first : path.bytes.head? = some Path.slash := by simpa [Path.isAbsolute] using absolute
      exact List.contains_iff_mem.2 (List.mem_of_head? first)
    constructor
    · rw [Child.Site.search, bytes, if_pos slash]
    · unfold Child.Site.executable FileSystem.stat
      rw [site.files.resolve_of_isAbsolute _ start absolute]

/-- A text that leads to a file where the path does not, or the other way round, means another
place. -/
theorem not_names {π : Type} {fs : FileSystem π} {start directory : Place} {ctx : Context}
    {text : String} {path : Path} (runs : Child.workingDirectory fs start ctx = .ok directory)
    (differs : fs.isFile directory (.ofString text) ≠ fs.isFile start path) :
    ¬Names start ctx text path := by
  intro names
  apply differs
  unfold FileSystem.isFile FileSystem.stat
  rw [(names.leads fs directory .follow runs).1]

/-- The words of a step's command that name places, and the places that these are to be. -/
def Step.places (layout : Layout) : Step → List (Nat × Path)
  | extract => [(2, layout.tarball), (4, layout.parentDir)]
  | bootstrap => [(0, layout.bootstrap)]
  | build => [(0, layout.b2)]
  | download | done => []

/-- Below an absolute root that is text, all places that commands name are such paths. -/
theorem place_of_mem {request : Request} {root : Path} {step : Step} {index : Nat} {path : Path}
    (isText : root.IsText) (absolute : root.isAbsolute = true)
    (mem : (index, path) ∈ step.places (request.layout root)) :
    path.IsText ∧ path.isAbsolute = true := by
  -- all places lie below the root, which is absolute and a text
  have below {p : Path} (within : p.IsText ∧ p.isAbsolute = true) (name : String) :
      (p.child name).IsText ∧ (p.child name).isAbsolute = true :=
    ⟨within.1.child name, Path.isAbsolute_child within.2⟩
  have archive : request.archiveRoot.IsText := (Path.isText_ofString parentName).child _
  have sources : (root.join request.archiveRoot).IsText ∧
      (root.join request.archiveRoot).isAbsolute = true :=
    ⟨isText.join archive, Path.isAbsolute_join absolute⟩
  cases step with
  | extract =>
    simp only [Step.places, Request.layout, List.mem_cons, Prod.mk.injEq, List.not_mem_nil,
      or_false] at mem
    obtain ⟨-, place⟩ | ⟨-, place⟩ := mem
    · exact place ▸ below ⟨isText, absolute⟩ request.tarballName
    · exact place ▸ below ⟨isText, absolute⟩ parentName
  | bootstrap =>
    simp only [Step.places, Request.layout, List.mem_singleton, Prod.mk.injEq] at mem
    exact mem.2 ▸ below sources "bootstrap.sh"
  | build =>
    simp only [Step.places, Request.layout, List.mem_singleton, Prod.mk.injEq] at mem
    exact mem.2 ▸ below sources "b2"
  | download | done => simp [Step.places] at mem

/-- A command has the text of a place for its word. -/
theorem token_of_mem (request : Request) {layout : Layout} {step : Step} {index : Nat} {path : Path}
    (unfinished : step ≠ .done) (mem : (index, path) ∈ step.places layout) :
    (call request layout step unfinished).command.tokens[index]? = some path.display := by
  cases step with
  | extract =>
    simp only [Step.places, List.mem_cons, Prod.mk.injEq, List.not_mem_nil, or_false] at mem
    obtain ⟨rfl, rfl⟩ | ⟨rfl, rfl⟩ := mem <;> rfl
  | bootstrap | build =>
    simp only [Step.places, List.mem_singleton, Prod.mk.injEq] at mem
    obtain ⟨rfl, rfl⟩ := mem
    rfl
  | download | done => simp [Step.places] at mem

/-- All other words of a command are the same wherever the build is. -/
theorem token_of_notMem (request : Request) (layout layout' : Layout) {step : Step} {index : Nat}
    (unfinished : step ≠ .done) (other : index ∉ (step.places layout).map (·.1)) :
    (call request layout step unfinished).command.tokens[index]?
      = (call request layout' step unfinished).command.tokens[index]? := by
  cases step with
  | download => rfl
  | extract =>
    simp only [Step.places, List.map_cons, List.map_nil, List.mem_cons, List.not_mem_nil, or_false,
      not_or] at other
    match index, other with
    | 0, _ | 1, _ | 3, _ | _ + 5, _ => rfl
    | 2, other => exact absurd rfl other.1
    | 4, other => exact absurd rfl other.2
  | bootstrap | build =>
    simp only [Step.places, List.map_cons, List.map_nil, List.mem_singleton] at other
    cases index with
    | zero => exact absurd rfl other
    | succ index => rfl
  | done => exact absurd rfl unfinished

end Boost

namespace Bench

variable {π γ τ ρ : Type}

/-- The call is that of a step, and those of its words name places of the layout that are to. -/
structure NamesPlaces (start : Place) (request : Request) (layout : Layout) (step : Step)
    (made : Call) : Prop where
  isCall : ∃ unfinished, made = call request layout step unfinished
  /-- A word that is to name a place does so. -/
  names : ∀ index path, (index, path) ∈ step.places layout →
    ∃ text, made.command.tokens[index]? = some text ∧ Names start made.context text path
  /-- No other word has to do with the places. -/
  others : ∀ index, index ∉ (step.places layout).map (·.1) → ∀ layout' unfinished,
    made.command.tokens[index]? = (call request layout' step unfinished).command.tokens[index]?

/-- **Commands name the places that a build looks at.** Below an absolute root that is text, the
calls of every build are those of some of its steps. Each word of a command that has to do with the
layout names one of its places: it means to the child, which runs in the directory of its call, what
the layout's path means where the build was started, whatever the files are then. -/
theorem ensureBuilt_names (start : Place) (respond : Responder π ρ) (request : Request)
    {root : Path} (isText : root.IsText) (absolute : root.isAbsolute = true)
    (w : World π (Bench γ τ ρ)) :
    let layout := request.layout root
    let whole := (workshop start respond).ensureBuilt request root w
    ∃ (steps : List Step) (made : List Call),
      whole.2.gear.calls.toList = w.gear.calls.toList ++ made ∧
      List.Forall₂ (NamesPlaces start request layout) steps made := by
  intro layout whole
  have ended : (workshop start respond).ensureBuilt request root w = (whole.1, whole.2) := rfl
  obtain ⟨m, comes, -⟩ := ensureBuilt_eq_iff.1 ended
  obtain ⟨made, calls, fits⟩ := calls_of_comes comes
  refine ⟨m.called, made, calls, fits.imp ?_⟩
  rintro step _ ⟨unfinished, rfl⟩
  refine ⟨⟨unfinished, rfl⟩, fun index path mem => ?_, fun index other layout' _ =>
    token_of_notMem request layout layout' unfinished other⟩
  obtain ⟨isText', absolute'⟩ := place_of_mem isText absolute mem
  exact ⟨path.display, token_of_mem request unfinished mem,
    names_display isText' absolute' start _⟩

theorem ensureBuilt_names_smallRoot :
    smallRoot.IsText ∧ smallRoot.isAbsolute = true ∧
    let whole := (workshop .root (leaving tooled 0)).ensureBuilt smallRequest smallRoot
      (having tooled)
    whole.2.gear.calls ≠ #[] ∧
    ∃ (steps : List Step) (made : List Call), whole.2.gear.calls.toList = made ∧
      List.Forall₂ (NamesPlaces .root smallRequest (smallRequest.layout smallRoot)) steps made := by
  have isText : smallRoot.IsText := by decide
  have absolute : smallRoot.isAbsolute = true := by decide
  refine ⟨isText, absolute, by decide +kernel, ?_⟩
  exact ensureBuilt_names .root (leaving tooled 0) smallRequest isText absolute (having tooled)

/-- A directory in the root, into which the sources were downloaded. -/
def downloadedIn (dir : Bytes) : FileSystem Unit :=
  (FileSystem.empty.addDirectory [dir]).put [dir, Text.encode smallRequest.tarballName]
    (.file ⟨2, [], false, none⟩)

/-- A build of sources that were downloaded is made, and the word of its command that is to name
them means something else. -/
def Misnames (root : Path) (dir : Bytes) : Prop :=
  let layout := smallRequest.layout root
  let made := call smallRequest layout .extract (by decide)
  let whole := (workshop .root (leaving .empty 0)).ensureBuilt smallRequest root
    (having (downloadedIn dir))
  whole.2.gear.calls = #[made] ∧ ¬NamesPlaces .root smallRequest layout .extract made

/-- A tarball is misnamed if it stands under the root, and if the text that the only command has for
it leads to no file from where that command runs. -/
theorem misnames {root : Path} {dir : Bytes}
    (only : ((workshop .root (leaving .empty 0)).ensureBuilt smallRequest root
      (having (downloadedIn dir))).2.gear.calls
        = #[call smallRequest (smallRequest.layout root) .extract (by decide)])
    (runs : Child.workingDirectory (downloadedIn dir) .root (.inDir root) = .ok ⟨[(dir, 1)]⟩)
    (found : (downloadedIn dir).isFile .root (smallRequest.layout root).tarball = true)
    (lost : (downloadedIn dir).isFile ⟨[(dir, 1)]⟩
      (.ofString (smallRequest.layout root).tarball.display) = false) : Misnames root dir := by
  refine ⟨only, fun names => ?_⟩
  obtain ⟨text, word, names⟩ := names.names 2 _ (.head _)
  obtain rfl : (smallRequest.layout root).tarball.display = text := Option.some.inj word
  -- from the directory of the command the same word leads elsewhere
  have differs : (downloadedIn dir).isFile ⟨[(dir, 1)]⟩
      (.ofString (smallRequest.layout root).tarball.display)
        ≠ (downloadedIn dir).isFile .root (smallRequest.layout root).tarball := by
    rw [lost, found]
    decide
  exact not_names runs differs names

/-- **A command may name another place.** Below a relative root, the word is looked up from the
directory of the command instead; and the text of a root that is none is another path. -/
theorem ensureBuilt_misnames :
    Misnames (.ofString "sub") (Text.encode "sub") ∧ Misnames ⟨[Path.slash, 0xFF]⟩ [0xFF] :=
  ⟨misnames (by decide +kernel) (by decide +kernel) (by decide +kernel) (by decide +kernel),
    misnames (by decide +kernel) (by decide +kernel) (by decide +kernel) (by decide +kernel)⟩

end Bench

end Orchestrator
