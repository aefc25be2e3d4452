import Mathlib.Data.List.TakeWhile
import Orchestrator.Proofs.FileSystem.Walks

namespace Orchestrator

/-!
# Directories — what is changed when directories are made

A directory is made together with all that is missing above it, and this can fail half-way. Even
then nothing that stood anywhere is changed, and what is new are directories on the way.

* `FileSystem.Walks.adds` — a directory that is made where a walk ended is found on the same way.
* `Path.Begins` — the paths that lead along a path.
* `FileSystem.Builds` — the only change is that directories were made at places where nothing stood,
  and such paths lead to them.
* `FileSystem.makeDirectories_builds` — this is all that making directories does, whether it fails
  or not.
-/

/-- The path `p` leads along `path`: it is this path, or the path of some of its first steps. -/
def Path.Begins (path p : Path) : Prop :=
  p = path ∨ ∃ leading, leading <+: path.components ∧ p = Path.ofComponents leading

namespace FileSystem

variable {π : Type} {fs after mid : FileSystem π} {start here : Place} {path : Path}
  {part : Bytes} {rest parts : List Bytes} {links : Nat} {manner : Manner}

/-! ### What stays -/

/-- Everything that stands somewhere stays as it is. -/
def Kept (fs after : FileSystem π) : Prop :=
  ∀ at_ node, fs.node? at_ = some node → after.node? at_ = some node

/-- What leads to a directory does so as long as everything stays. -/
theorem Kept.resolve_directory {place : Place} (kept : fs.Kept after)
    (led : fs.resolve start .follow path = .ok (.directory place)) :
    after.resolve start .follow path = .ok (.directory place) := by
  obtain ⟨fine, walks⟩ := resolve_eq_ok_iff.1 led
  exact resolve_eq_ok_iff.2
    ⟨fine, walks.directory_of_ways (fun _ _ => kept _ _) fun _ _ => kept _ _⟩

/-- A new directory changes nothing elsewhere. -/
theorem node?_addDirectory_of_ne {at_ other : Location} (ne : other ≠ at_) :
    (fs.addDirectory at_).node? other = fs.node? other :=
  node?_put_of_ne fs _ ne

/-- A new directory stands where it was made. -/
theorem node?_addDirectory_self {at_ : Location} (nonempty : at_ ≠ []) :
    (fs.addDirectory at_).node? at_ = some (.directory fs.fresh) :=
  node?_put_self fs _ nonempty

/-- A directory that is made where nothing stands leaves everything as it is. -/
theorem kept_addDirectory {at_ : Location} (free : fs.node? at_ = none) :
    fs.Kept (fs.addDirectory at_) := by
  intro other node found
  rw [node?_addDirectory_of_ne, found]
  rintro rfl
  simp [free] at found

/-! ### A new directory is found -/

/-- Slashes behind a directory change nothing. -/
theorem Walks.padded {place : Place} {more : List Bytes}
    (h : Walks fs .follow links here parts (.directory place)) (empty : ∀ part ∈ more, part = []) :
    Walks fs .follow links here (parts ++ more) (.directory place) := by
  induction more generalizing parts with
  | nil => rwa [List.append_nil]
  | cons part rest ih =>
    obtain ⟨rfl, others⟩ := List.forall_mem_cons.1 empty
    rw [List.append_cons]
    exact ih h.slashed others

/-- A directory that is made where a walk has ended is found on the same way. -/
theorem Walks.adds {at_ : Location} {slashed : Bool}
    (h : Walks fs .keep links here parts (.free at_ slashed)) :
    ∃ place, place.location = at_ ∧
      Walks (fs.addDirectory at_) .follow links here parts (.directory place) := by
  have kept : fs.Kept (fs.addDirectory at_) := kept_addDirectory h.stands
  have directories := fun at_ serial => kept at_ (.directory serial)
  generalize ends : (.free at_ slashed : Landing π) = l at h
  -- on the way there are directories and links, and these stay as they are
  induction h with
  | arrives => cases ends
  | idles idle more ih =>
    obtain ⟨place, location, onward⟩ := ih ends
    exact ⟨place, location, .idles idle onward⟩
  | rises more ih =>
    obtain ⟨place, location, onward⟩ := ih ends
    exact ⟨place, location, .rises onward⟩
  | follows looks found spells followed more ih =>
    obtain ⟨place, location, onward⟩ := ih ends
    exact ⟨place, location,
      .follows (looks.carried directories) (kept _ _ found) (spells_follow _ _) (by simp) onward⟩
  | keeps looks found kept' => cases ends
  | enters looks found spells more ih =>
    obtain ⟨place, location, onward⟩ := ih ends
    exact ⟨place, location,
      .enters (looks.carried directories) (kept _ _ found) (spells_follow _ _) onward⟩
  | finds looks found spells => cases ends
  | reaches looks found spells => cases ends
  | @misses links here part rest looks found spells last =>
    cases ends
    let new := here.location ++ [part]
    have gained : (fs.addDirectory new).node? new = some (.directory fs.fresh) :=
      node?_addDirectory_self (by simp [new])
    have empty : ∀ part ∈ rest, part = [] := by simpa using last
    refine ⟨here.enter part fs.fresh, Place.location_enter _ _ _, ?_⟩
    exact .enters (looks.carried directories) gained (spells_follow _ _)
      (Walks.arrives.padded empty)

/-! ### Making directories -/

/-- `fs.Builds start asked after`: everything stays as it is, and what is new are directories that
the paths `asked` lead to. -/
structure Builds (fs : FileSystem π) (start : Place) (asked : Path → Prop)
    (after : FileSystem π) : Prop where
  kept : fs.Kept after
  made : ∀ at_ node, fs.node? at_ = none → after.node? at_ = some node →
    (∃ serial, node = .directory serial) ∧
      ∃ p place, asked p ∧ after.resolve start .follow p = .ok (.directory place) ∧
        place.location = at_

namespace Builds

variable {asked asked' : Path → Prop}

/-- Making nothing is a way of building. -/
theorem refl (fs : FileSystem π) (start : Place) (asked : Path → Prop) :
    fs.Builds start asked fs where
  kept _ _ found := found
  made _ _ free found := by simp [free] at found

/-- A directory that some paths lead to is one that more paths lead to. -/
theorem mono (h : fs.Builds start asked after) (more : ∀ p, asked p → asked' p) :
    fs.Builds start asked' after where
  kept := h.kept
  made at_ node free found := by
    obtain ⟨directory, p, place, isAsked, led, location⟩ := h.made at_ node free found
    exact ⟨directory, p, place, more p isAsked, led, location⟩

/-- What was made first still stands on its way when more is made. -/
theorem trans (h : fs.Builds start asked mid) (h' : mid.Builds start asked after) :
    fs.Builds start asked after where
  kept at_ node found := h'.kept _ _ (h.kept _ _ found)
  made at_ node free found := by
    rcases between : mid.node? at_ with _ | node'
    · exact h'.made at_ node between found
    · -- it was made first, and is still there
      obtain ⟨directory, p, place, isAsked, led, location⟩ := h.made at_ node' free between
      obtain rfl : node' = node := by simpa [h'.kept _ _ between] using found
      exact ⟨directory, p, place, isAsked, h'.kept.resolve_directory led, location⟩

end Builds

/-- An entry is looked for without the slashes at the end of its path. -/
theorem resolveEntry_eq_ok {l : Landing π} (h : fs.resolveEntry start path = .ok l) :
    refusal? path = none ∧ ∃ parts more, path.parts = parts ++ more ∧
      (∀ part ∈ more, part = []) ∧ Walks fs .keep linkLimit (origin start path) parts l := by
  unfold resolveEntry at h
  split at h
  · cases h
  · next fine =>
    refine ⟨fine, _, (path.parts.reverse.takeWhile (· == [])).reverse, ?_, ?_, walk_eq_ok_iff.1 h⟩
    · rw [← List.reverse_append, List.takeWhile_append_dropWhile, List.reverse_reverse]
    · intro part mem
      simpa using List.mem_takeWhile_imp (List.mem_reverse.1 mem)

/-- A directory that was made is new, and all else is as it was. -/
theorem makeDirectory_builds (h : fs.makeDirectory start path = .ok after) :
    fs.Builds start (· = path) after ∧ after.isDirectory start path = true := by
  unfold makeDirectory at h
  split at h
  · next at_ slashed entry =>
    cases h
    obtain ⟨fine, parts, more, whole, empty, walks⟩ := resolveEntry_eq_ok entry
    have free : fs.node? at_ = none := walks.stands
    obtain ⟨place, location, onward⟩ := walks.adds
    have led : (fs.addDirectory at_).resolve start .follow path = .ok (.directory place) :=
      resolve_eq_ok_iff.2 ⟨fine, whole ▸ onward.padded empty⟩
    refine ⟨⟨kept_addDirectory free, fun other node nothing found => ?_⟩,
      isDirectory_iff.2 ⟨place, led⟩⟩
    -- the one new directory is where the walk ended
    obtain rfl : other = at_ := Classical.byContradiction fun ne => by
      rw [node?_addDirectory_of_ne ne, nothing] at found
      cases found
    have nonempty : other ≠ [] := by
      rintro rfl
      simp at free
    rw [node?_addDirectory_self nonempty] at found
    cases found
    exact ⟨⟨_, rfl⟩, path, place, rfl, led, location⟩
  · cases h
  · cases h

/-- Making sure of one directory makes at most that one, and the path leads to it. -/
theorem ensureDirectory_builds (fs : FileSystem π) (start : Place) (path : Path) :
    let done := fs.ensureDirectory start path
    fs.Builds start (· = path) done.2 ∧
      (done.1 = .ok () → done.2.isDirectory start path = true) := by
  unfold ensureDirectory
  split
  · next after made =>
    obtain ⟨builds, there⟩ := makeDirectory_builds made
    exact ⟨builds, fun _ => there⟩
  · split
    · next there => exact ⟨.refl fs start _, fun _ => there⟩
    · exact ⟨.refl fs start _, nofun⟩

/-- Making a directory below others makes these, and then at most the one that the path leads to. -/
theorem makeBelow_builds {above : FileSystem π → Except Cause Unit × FileSystem π}
    {asked : Path → Prop} (isAsked : asked path)
    (builds : ∀ fs : FileSystem π, fs.Builds start asked (above fs).2) (fs : FileSystem π) :
    let done := makeBelow start path above fs
    fs.Builds start asked done.2 ∧ (done.1 = .ok () → done.2.isDirectory start path = true) := by
  have ensured (fs : FileSystem π) :
      fs.Builds start asked (fs.ensureDirectory start path).2 :=
    (ensureDirectory_builds fs start path).1.mono fun _ same => same ▸ isAsked
  have first := builds fs
  unfold makeBelow
  split
  · rcases made : above fs with ⟨cause | ⟨⟩, mid⟩
    · rw [made] at first
      exact ⟨first, nofun⟩
    · rw [made] at first
      exact ⟨first.trans (ensured mid), (ensureDirectory_builds mid start path).2⟩
  · exact ⟨ensured fs, (ensureDirectory_builds fs start path).2⟩

/-- The steps are made one after the other, the first of the path first. -/
theorem makeAll_builds (start : Place) (steps : List Component) (fs : FileSystem π) :
    fs.Builds start (fun p => ∃ leading, leading <+: steps.reverse ∧ p = Path.ofComponents leading)
      (makeAll start steps fs).2 := by
  induction steps generalizing fs with
  | nil => exact .refl fs start _
  | cons step above ih =>
    rw [makeAll]
    refine (makeBelow_builds ⟨_, List.prefix_rfl, rfl⟩ (fun fs => (ih fs).mono ?_) fs).1
    rintro p ⟨leading, within, rfl⟩
    rw [List.reverse_cons]
    exact ⟨leading, within.trans (List.prefix_append _ _), rfl⟩

/-- **Making directories changes nothing else.** Whether it fails or not, everything that stood
anywhere stays as it is, and what is new are directories along the path. If it does not fail, and
the path takes any step, there is a directory then. -/
theorem makeDirectories_builds (fs : FileSystem π) (start : Place) (path : Path) :
    let done := fs.makeDirectories start path
    fs.Builds start path.Begins done.2 ∧
      (path.components ≠ [] → done.1 = .ok () → done.2.isDirectory start path = true) := by
  unfold makeDirectories
  split
  · next none => exact ⟨.refl fs start _, fun some_ => absurd none some_⟩
  · have above (fs : FileSystem π) : fs.Builds start path.Begins (makeParents start path fs).2 := by
      refine (makeAll_builds start _ fs).mono ?_
      rintro p ⟨leading, within, rfl⟩
      -- the parents are asked for by prefixes of the path
      have shorter : path.components.reverse.tail.reverse = path.components.dropLast := by simp
      exact .inr ⟨leading, within.trans (shorter ▸ List.dropLast_prefix _), rfl⟩
    obtain ⟨builds, there⟩ := makeBelow_builds (.inl rfl) above fs
    exact ⟨builds, fun _ => there⟩

end FileSystem

end Orchestrator
