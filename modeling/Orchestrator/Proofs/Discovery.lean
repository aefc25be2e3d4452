import Mathlib.Data.List.Nodup
import Orchestrator.Example
import Orchestrator.Proofs.Path
import Orchestrator.Proofs.Text.Utf8

namespace Orchestrator

/-!
# Discovery — which entries the discovered paths are

The name of an entry is read as text before its path is made, and names that are no text may be read
alike. So the paths that are discovered are those of the entries only as far as these have texts for
names.

* `FileSystem.Tidy` — a table as file systems keep it; the names in a directory are then distinct,
  and no name has a slash in it (`FileSystem.Tidy.list`).
* `Discovers` — the paths are those of the wanted entries, each once.
* `discover_perm` — one path is made for each wanted entry, from what its name is read as.
* `discovers_iff` — these are the paths of the entries just if the wanted names are texts.
-/

namespace FileSystem

variable {π : Type} {fs : FileSystem π} {start : Place} {dir : Path} {at_ : Location}

/-! ### Listings -/

/-- One thing stands at a location at most, and no name has a slash in it. -/
structure Tidy (fs : FileSystem π) : Prop where
  once : (fs.entries.map (·.1)).Nodup
  named : ∀ at_ ∈ fs.entries.map (·.1), ∀ name ∈ at_, Path.slash ∉ name

theorem tidy_empty : (empty : FileSystem π).Tidy := ⟨.nil, nofun⟩

/-- Another node makes no second entry for its location: the old one goes. -/
theorem Tidy.put (tidy : fs.Tidy) (named : ∀ name ∈ at_, Path.slash ∉ name) (node : Node π) :
    (fs.put at_ node).Tidy where
  once := by
    refine List.nodup_cons.2 ⟨by simp, ?_⟩
    exact tidy.once.sublist (List.filter_sublist.map _)
  named := by
    refine List.forall_mem_cons.2 ⟨named, fun other mem => tidy.named other ?_⟩
    exact (List.filter_sublist.map _).subset mem

/-- The serial number of a new directory has no say in how tidy the table is. -/
theorem Tidy.addDirectory (tidy : fs.Tidy) (named : ∀ name ∈ at_, Path.slash ∉ name) :
    (fs.addDirectory at_).Tidy :=
  have put := tidy.put named (.directory fs.fresh)
  ⟨put.once, put.named⟩

/-- The name of a location in a directory. -/
def nameIn (place : Place) (below : Location) : Option Bytes :=
  if below ≠ [] ∧ below.dropLast = place.location then below.getLast? else none

/-- A location in a directory is the name of an entry behind the location of the directory. -/
theorem nameIn_eq_some {place : Place} {below : Location} {name : Bytes}
    (h : nameIn place below = some name) : below = place.location ++ [name] := by
  unfold nameIn at h
  split at h
  · next within => rw [← within.2, List.dropLast_append_getLast? _ h]
  · cases h

/-- The names in a directory are those of the locations right below it. -/
theorem names_eq (fs : FileSystem π) (place : Place) : fs.names place =
    if fs.isThere place then (fs.entries.map (·.1)).filterMap (nameIn place) else [] := by
  rw [FileSystem.names, List.filterMap_map]
  rfl

/-- The names in a directory are distinct, and no name has a slash in it. -/
theorem Tidy.list {names : List Bytes} (tidy : fs.Tidy) (listed : fs.list start dir = .ok names) :
    names.Nodup ∧ ∀ name ∈ names, Path.slash ∉ name := by
  obtain ⟨place, rfl⟩ : ∃ place, fs.names place = names := by
    unfold FileSystem.list at listed
    cases led : fs.directory start dir with
    | error cause =>
      rw [led] at listed
      cases listed
    | ok place =>
      rw [led] at listed
      exact ⟨place, Except.ok.inj listed⟩
  rw [names_eq]
  split
  · constructor
    · -- two locations with one name in one directory are one
      refine tidy.once.filterMap fun below other name isName isName' => ?_
      rw [nameIn_eq_some isName, nameIn_eq_some isName']
    · intro name mem
      obtain ⟨below, stands, isName⟩ := List.mem_filterMap.1 mem
      exact tidy.named below stands name (by simp [nameIn_eq_some isName])
  · exact ⟨.nil, nofun⟩

end FileSystem

/-! ### Paths of entries -/

variable {π : Type} {fs : FileSystem π} {start : Place} {dir : Path} {f : ExampleFilter}
  {names : List Bytes} {paths : List Path} {name other : Bytes}

/-- The path of an entry. -/
def entryPath (dir : Path) (name : Bytes) : Path := dir.join ⟨name⟩

/-- The path that is made for an entry, from what its name is read as. -/
def readPath (dir : Path) (name : Bytes) : Path := dir.child (Text.decode name)

/-- An entry is wanted for what its name is read as. -/
def ExampleFilter.wants (f : ExampleFilter) (name : Bytes) : Bool := f.accepts (Text.decode name)

/-- The paths are those of the wanted entries, each once. -/
structure Discovers (dir : Path) (f : ExampleFilter) (names : List Bytes) (paths : List Path) :
    Prop where
  distinct : paths.Nodup
  real : ∀ p ∈ paths, ∃ name ∈ names, p = entryPath dir name
  covers : ∀ name ∈ names, f.wants name = true → entryPath dir name ∈ paths

/-- Entries with different names have different paths. -/
theorem entryPath_injective (whole : Path.slash ∉ name) (whole' : Path.slash ∉ other)
    (same : entryPath dir name = entryPath dir other) : name = other :=
  congrArg Path.bytes <| Path.join_injective (Path.isAbsolute_of_notMem whole)
    (Path.isAbsolute_of_notMem whole') same

/-- What a name is read as is the name of an entry as well. -/
theorem readPath_eq (dir : Path) (name : Bytes) :
    readPath dir name = entryPath dir (Text.encode (Text.decode name)) := rfl

/-- For a name that is text, the path that is made is the path of the entry. -/
theorem readPath_of_isText (isText : Text.IsText name) :
    readPath dir name = entryPath dir name := by
  rw [readPath_eq, isText]

/-- A name without a slash is read without one. -/
theorem slash_notMem_read (whole : Path.slash ∉ name) :
    Path.slash ∉ Text.encode (Text.decode name) :=
  fun mem => whole (Text.mem_of_mem_encode_decode (by decide) mem)

/-- One path is made for each wanted entry, from what its name is read as. -/
theorem discover_perm (listed : fs.list start dir = .ok names) :
    ∃ paths, discover fs start dir f = .ok paths ∧
      paths.Perm ((names.filter f.wants).map (readPath dir)) := by
  refine ⟨_, by rw [discover, listed], ?_⟩
  refine ((List.mergeSort_perm _ _).map _).trans (.of_eq ?_)
  rw [List.filter_map, List.map_map]
  rfl

/-- The paths that are made are those of the wanted entries just if the wanted names are texts. -/
theorem discovers_iff_of_perm (distinct : names.Nodup)
    (whole : ∀ name ∈ names, Path.slash ∉ name)
    (made : paths.Perm ((names.filter f.wants).map (readPath dir))) :
    Discovers dir f names paths ↔ ∀ name ∈ names, f.wants name = true → Text.IsText name := by
  constructor
  · intro h name mem wanted
    -- what the name is read as is an entry, and this one is wanted and read the same
    let read := Text.encode (Text.decode name)
    have listed : name ∈ names.filter f.wants := List.mem_filter.2 ⟨mem, wanted⟩
    have isPath : entryPath dir read ∈ paths := made.mem_iff.2 (List.mem_map_of_mem listed)
    obtain ⟨other, mem', same⟩ := h.real _ isPath
    obtain rfl : read = other :=
      entryPath_injective (slash_notMem_read (whole name mem)) (whole other mem') same
    have wanted' : f.wants read = true := by
      rwa [ExampleFilter.wants, Text.decode_encode]
    have listed' : read ∈ names.filter f.wants := List.mem_filter.2 ⟨mem', wanted'⟩
    have met : readPath dir read = readPath dir name := by
      rw [readPath, readPath, Text.decode_encode]
    exact List.inj_on_of_nodup_map (made.nodup_iff.1 h.distinct) listed' listed met
  · intro texts
    have own : (names.filter f.wants).map (readPath dir)
        = (names.filter f.wants).map (entryPath dir) := by
      refine List.map_congr_left fun name listed => ?_
      obtain ⟨mem, wanted⟩ := List.mem_filter.1 listed
      exact readPath_of_isText (texts name mem wanted)
    rw [own] at made
    refine ⟨made.nodup_iff.2 ?_, fun p mem => ?_, fun name mem wanted => ?_⟩
    · refine (distinct.filter _).map_on fun name listed other listed' same => ?_
      exact entryPath_injective (whole name (List.mem_filter.1 listed).1)
        (whole other (List.mem_filter.1 listed').1) same
    · obtain ⟨name, listed, rfl⟩ := List.mem_map.1 (made.mem_iff.1 mem)
      exact ⟨name, (List.mem_filter.1 listed).1, rfl⟩
    · exact made.mem_iff.2 (List.mem_map_of_mem (List.mem_filter.2 ⟨mem, wanted⟩))

/-- **Which entries are discovered.** In every directory that can be listed, one path is made for
each wanted entry, from what its name is read as. These are the paths of the wanted entries, each
once, just if the names of all of them are texts. -/
theorem discovers_iff (tidy : fs.Tidy) (listed : fs.list start dir = .ok names)
    (f : ExampleFilter) :
    ∃ paths, discover fs start dir f = .ok paths ∧
      paths.Perm ((names.filter f.wants).map (readPath dir)) ∧
      (Discovers dir f names paths ↔
        ∀ name ∈ names, f.wants name = true → Text.IsText name) := by
  obtain ⟨distinct, whole⟩ := tidy.list listed
  obtain ⟨paths, found, made⟩ := discover_perm listed
  exact ⟨paths, found, made, discovers_iff_of_perm distinct whole made⟩

/-! ### Two small directories -/

/-- The directory of the examples. -/
def exampleDir : Path := .ofString "ex"

/-- Empty files with such names, in the directory of the examples. -/
def examplesNamed (names : List Bytes) : FileSystem Unit :=
  names.foldl (fun fs name => fs.put [exampleDir.bytes, name] (.file ⟨2, [], true, none⟩))
    (FileSystem.empty.addDirectory [exampleDir.bytes])

/-- Entries without slashes in their names make a tidy table. -/
theorem tidy_examplesNamed {names : List Bytes} (whole : ∀ name ∈ names, Path.slash ∉ name) :
    (examplesNamed names).Tidy := by
  have isWhole : Path.slash ∉ exampleDir.bytes := by decide
  have start : ((FileSystem.empty : FileSystem Unit).addDirectory [exampleDir.bytes]).Tidy :=
    FileSystem.tidy_empty.addDirectory (by simpa using isWhole)
  unfold examplesNamed
  generalize FileSystem.empty.addDirectory [exampleDir.bytes] = fs at start
  -- every entry is put under a name of its own, without a slash
  induction names generalizing fs with
  | nil => exact start
  | cons name rest ih =>
    obtain ⟨whole, others⟩ := List.forall_mem_cons.1 whole
    exact ih others _ (start.put (by simp [isWhole, whole]) _)

theorem discovers_iff_oneExample :
    let name := Text.encode "example_a"
    let fs := examplesNamed [name]
    fs.Tidy ∧ fs.list .root exampleDir = .ok [name] ∧
    ∃ paths, discover fs .root exampleDir .standard = .ok paths ∧
      Discovers exampleDir .standard [name] paths := by
  intro name fs
  have tidy : fs.Tidy := tidy_examplesNamed (by decide)
  have listed : fs.list .root exampleDir = .ok [name] := by decide +kernel
  obtain ⟨paths, found, -, texts⟩ := discovers_iff tidy listed .standard
  exact ⟨tidy, listed, paths, found, texts.2 (by decide)⟩

/-- **Two entries may be discovered as none.** Two names that are no texts are read alike. The path
that is made of them is discovered twice, and nothing is there. -/
theorem discovered_as_none :
    let first := Text.encode "example_" ++ [0xFE]
    let second := Text.encode "example_" ++ [0xFF]
    let fs := examplesNamed [first, second]
    let path := exampleDir.child "example_\uFFFD"
    fs.list .root exampleDir = .ok [second, first] ∧
    discover fs .root exampleDir .standard = .ok [path, path] ∧
    fs.stat .root path = .error .noEntry ∧
    ¬Discovers exampleDir .standard [second, first] [path, path] := by
  intro first second fs path
  have listed : fs.list .root exampleDir = .ok [second, first] := by decide +kernel
  obtain ⟨paths, found, made⟩ := discover_perm (f := .standard) listed
  have alike : ([second, first].filter ExampleFilter.standard.wants).map (readPath exampleDir)
      = List.replicate 2 path := by decide
  rw [alike, List.perm_replicate] at made
  refine ⟨listed, by rw [found, made]; rfl, ?_, fun h => ?_⟩
  · rfl
  · exact absurd h.distinct (by decide)

end Orchestrator
