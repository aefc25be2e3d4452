import Orchestrator.FileSystem.Change

namespace Orchestrator.FileSystem

/-!
# Walks — the ways on which a path is walked

A walk looks at one part of a path at a time, and goes on in one of a few ways. They are told here
once, as a relation with one constructor for each; whatever is said of walks is then said by
induction on it.

* `LooksUp` — a part is a name, and it is looked up in the directory that the walk has come to.
* `Walks` — the walk comes to an end that is no refusal.
* `walk_eq_ok_iff` — the function walks just these ways.
* `Walks.stands` — what a walk ends at stands there.
* `Walks.exists_directory` — what comes before the last name of a path leads to a directory.
* `Walks.gains` — a file that is put where a walk has ended is found on the same way.
* `createFile_cases` — a file that was made is found so, and nothing else is changed by that; or else
  a device was opened, and nothing is changed at all.
* `isDirectory_of_isFile_child` — a path that has a file below it leads to a directory.
-/

variable {π : Type}

/-! ### Ways -/

/-- The part is a name with `rest` behind it, and it is looked up in the directory `here`. -/
structure LooksUp (fs : FileSystem π) (manner : Manner) (here : Place) (part : Bytes)
    (rest : List Bytes) : Prop where
  leads : ¬(part = [] ∨ part = Path.dot)
  ahead : part ≠ Path.dotDot
  unslashed : ¬(manner = .create ∧ rest ≠ [] ∧ rest.all (· == []) = true)
  there : fs.isThere here = true
  short : part.length ≤ nameLimit

/-- The location can be spelled with the parts `rest` behind it, if it has to be. -/
def Spells (manner : Manner) (at_ : Location) (rest : List Bytes) : Prop :=
  ¬(manner = .spell ∧ isTooLong at_ rest = true)

/-- `Walks fs manner links here parts l`: walking the parts from `here`, and following at most
`links` links, ends at `l`. -/
inductive Walks (fs : FileSystem π) (manner : Manner) :
    Nat → Place → List Bytes → Landing π → Prop where
  | arrives {links here} : Walks fs manner links here [] (.directory here)
  | idles {links here part rest l} (idle : part = [] ∨ part = Path.dot)
      (more : Walks fs manner links here rest l) : Walks fs manner links here (part :: rest) l
  | rises {links here rest l} (more : Walks fs manner links here.parent rest l) :
      Walks fs manner links here (Path.dotDot :: rest) l
  | follows {links here part rest target l} (looks : LooksUp fs manner here part rest)
      (found : fs.node? (here.location ++ [part]) = some (.link target))
      (spells : Spells manner (here.location ++ [part]) [])
      (followed : ¬(manner = .keep ∧ rest = []))
      (more : Walks fs manner links (if target.isAbsolute then .root else here)
        (target.parts ++ rest) l) :
      Walks fs manner (links + 1) here (part :: rest) l
  | keeps {links here part target} (looks : LooksUp fs manner here part [])
      (found : fs.node? (here.location ++ [part]) = some (.link target))
      (kept : manner = .keep) :
      Walks fs manner links here [part] (.link (here.location ++ [part]) target)
  | enters {links here part rest serial l} (looks : LooksUp fs manner here part rest)
      (found : fs.node? (here.location ++ [part]) = some (.directory serial))
      (spells : Spells manner (here.location ++ [part]) rest)
      (more : Walks fs manner links (here.enter part serial) rest l) :
      Walks fs manner links here (part :: rest) l
  | finds {links here part f} (looks : LooksUp fs manner here part [])
      (found : fs.node? (here.location ++ [part]) = some (.file f))
      (spells : Spells manner (here.location ++ [part]) []) :
      Walks fs manner links here [part] (.file (here.location ++ [part]) f)
  | reaches {links here part d} (looks : LooksUp fs manner here part [])
      (found : fs.node? (here.location ++ [part]) = some (.device d))
      (spells : Spells manner (here.location ++ [part]) []) :
      Walks fs manner links here [part] (.device (here.location ++ [part]) d)
  | misses {links here part rest} (looks : LooksUp fs manner here part rest)
      (found : fs.node? (here.location ++ [part]) = none)
      (spells : Spells manner (here.location ++ [part]) rest)
      (last : rest.all (· == []) = true) :
      Walks fs manner links here (part :: rest)
        (.free (here.location ++ [part]) !rest.isEmpty)

/-! ### The function and its ways -/

variable {fs : FileSystem π} {manner : Manner} {here : Place} {part : Bytes}
  {rest parts : List Bytes} {links : Nat} {l : Landing π}
  {jump : Place → List Bytes → Except Cause (Landing π)}

/-- What a walk goes on with at a link, if it has so many links left. -/
def jumpOf (fs : FileSystem π) (manner : Manner) :
    Nat → Place → List Bytes → Except Cause (Landing π)
  | 0 => fun _ _ => .error .tooManyLinks
  | links + 1 => walk fs manner links

/-- A walk that may follow some links is one that jumps wherever it meets one. -/
theorem walk_eq_walkFrom (fs : FileSystem π) (manner : Manner) (links : Nat) :
    fs.walk manner links = fs.walkFrom manner (fs.jumpOf manner links) := by
  cases links <;> rfl

/-- Only a file that is to be made asks what is behind its name. -/
theorem LooksUp.follow {rest' : List Bytes} (h : LooksUp fs manner here part rest) :
    LooksUp fs .follow here part rest' :=
  ⟨h.leads, h.ahead, nofun, h.there, h.short⟩

/-- Where no location has to be spelled, none is too long. -/
theorem spells_follow (at_ : Location) (rest : List Bytes) : Spells .follow at_ rest := nofun

/-- What stands under a name that is looked up decides how a walk goes on. -/
theorem LooksUp.walkFrom_eq (h : LooksUp fs manner here part rest)
    (jump : Place → List Bytes → Except Cause (Landing π)) :
    fs.walkFrom manner jump here (part :: rest) =
      match fs.node? (here.location ++ [part]) with
      | some (.link target) =>
        if manner = .spell ∧ isTooLong (here.location ++ [part]) [] then .error .nameTooLong
        else if manner = .keep ∧ rest = [] then .ok (.link (here.location ++ [part]) target)
        else jump (if target.isAbsolute then .root else here) (target.parts ++ rest)
      | node? =>
        if manner = .spell ∧ isTooLong (here.location ++ [part]) rest then .error .nameTooLong
        else
          match node? with
          | some (.directory serial) => walkFrom fs manner jump (here.enter part serial) rest
          | some (.file f) =>
            if rest = [] then .ok (.file (here.location ++ [part]) f) else .error .notADirectory
          | some (.device d) =>
            if rest = [] then .ok (.device (here.location ++ [part]) d) else .error .notADirectory
          | _ =>
            if rest.all (· == []) then .ok (.free (here.location ++ [part]) !rest.isEmpty)
            else .error .noEntry := by
  have there : ¬(!fs.isThere here) = true := by simp [h.there]
  rw [walkFrom]
  exact (if_neg h.leads).trans <| (if_neg h.ahead).trans <| (if_neg h.unslashed).trans <|
    (if_neg there).trans (if_neg (Nat.not_lt.2 h.short))

/-- A walk that is not refused looks every name up. -/
theorem LooksUp.of_walkFrom (leads : ¬(part = [] ∨ part = Path.dot)) (ahead : part ≠ Path.dotDot)
    (h : fs.walkFrom manner jump here (part :: rest) = .ok l) :
    LooksUp fs manner here part rest := by
  rw [walkFrom, if_neg leads, if_neg ahead] at h
  split at h
  · cases h
  · next unslashed =>
    split at h
    · cases h
    · next there =>
      split at h
      · cases h
      · next short => exact ⟨leads, ahead, unslashed, by simpa using there, Nat.not_lt.1 short⟩

/-- A walk goes one of the ways if every walk from a link on does. -/
theorem walks_of_walkFrom
    (jumps : ∀ here parts, jump here parts = .ok l →
      ∃ fewer, links = fewer + 1 ∧ Walks fs manner fewer here parts l)
    (h : fs.walkFrom manner jump here parts = .ok l) : Walks fs manner links here parts l := by
  induction parts generalizing here with
  | nil =>
    obtain rfl := Except.ok.inj h
    exact .arrives
  | cons part rest ih =>
    by_cases idle : part = [] ∨ part = Path.dot
    · rw [walkFrom, if_pos idle] at h
      exact .idles idle (ih h)
    by_cases ahead : part = Path.dotDot
    · rw [walkFrom, if_neg idle, if_pos ahead] at h
      subst ahead
      exact .rises (ih h)
    have looks := LooksUp.of_walkFrom idle ahead h
    rw [looks.walkFrom_eq] at h
    -- the part is a name: one case for each thing that can stand there
    rcases found : fs.node? (here.location ++ [part]) with _ | serial | f | d | target
    all_goals
      simp only [found] at h
      split at h
      · cases h
    · next spells =>
      split at h
      · next last =>
        obtain rfl := Except.ok.inj h
        exact .misses looks found spells last
      · cases h
    · next spells => exact .enters looks found spells (ih h)
    · next spells =>
      split at h
      · next last =>
        subst last
        obtain rfl := Except.ok.inj h
        exact .finds looks found spells
      · cases h
    · next spells =>
      split at h
      · next last =>
        subst last
        obtain rfl := Except.ok.inj h
        exact .reaches looks found spells
      · cases h
    · next spells =>
      split at h
      · next kept =>
        obtain ⟨kept, rfl⟩ := kept
        obtain rfl := Except.ok.inj h
        exact .keeps looks found kept
      · next followed =>
        obtain ⟨fewer, rfl, more⟩ := jumps _ _ h
        exact .follows looks found spells followed more

/-- **The ways of a walk.** A walk ends at `l` just if one of the ways leads there. -/
theorem walk_eq_ok_iff :
    fs.walk manner links here parts = .ok l ↔ Walks fs manner links here parts l := by
  constructor
  · -- the induction is on the links that are left
    intro h
    rw [walk_eq_walkFrom] at h
    induction links generalizing here parts l with
    | zero =>
      refine walks_of_walkFrom (fun _ _ refused => ?_) h
      cases refused
    | succ links ih =>
      refine walks_of_walkFrom (fun _ _ more => ⟨links, rfl, ih ?_⟩) h
      rwa [← walk_eq_walkFrom]
  · -- one case for each way a walk can go on or end
    intro h
    induction h with
    | arrives =>
      rw [walk_eq_walkFrom]
      rfl
    | idles idle more ih =>
      rw [walk_eq_walkFrom] at ih ⊢
      rw [walkFrom, if_pos idle, ih]
    | rises more ih =>
      rw [walk_eq_walkFrom] at ih ⊢
      rw [walkFrom, if_neg (by decide), if_pos rfl, ih]
    | follows looks found spells followed more ih =>
      rw [walk_eq_walkFrom, looks.walkFrom_eq]
      simp only [found, if_neg followed]
      rw [if_neg spells]
      exact ih
    | keeps looks found kept =>
      subst kept
      rw [walk_eq_walkFrom, looks.walkFrom_eq]
      simp [found]
    | enters looks found spells more ih =>
      rw [walk_eq_walkFrom] at ih ⊢
      rw [looks.walkFrom_eq]
      simp only [found]
      rw [if_neg spells, ih]
    | finds looks found spells =>
      rw [walk_eq_walkFrom, looks.walkFrom_eq]
      simp only [found]
      rw [if_neg spells, if_pos trivial]
    | reaches looks found spells =>
      rw [walk_eq_walkFrom, looks.walkFrom_eq]
      simp only [found]
      rw [if_neg spells, if_pos trivial]
    | misses looks found spells last =>
      rw [walk_eq_walkFrom, looks.walkFrom_eq]
      simp only [found]
      rw [if_neg spells, if_pos last]

/-! ### Where a walk ends -/

/-- What the landing says stands at its location. -/
def Landing.Stands (fs : FileSystem π) : Landing π → Prop
  | .directory _ => True
  | .file at_ f => fs.node? at_ = some (.file f)
  | .device at_ d => fs.node? at_ = some (.device d)
  | .link at_ target => fs.node? at_ = some (.link target)
  | .free at_ _ => fs.node? at_ = none

/-- A directory is there as long as its location bears it. -/
theorem isThere_iff {place : Place} : fs.isThere place = true ↔
    ∀ name serial, place.way.getLast? = some (name, serial) →
      fs.node? place.location = some (.directory serial) := by
  unfold isThere
  rcases place.way.getLast? with _ | ⟨name, serial⟩
  · simp
  · rcases fs.node? place.location with _ | there | _ | _ | _ <;> simp
    exact eq_comm

/-- What is looked up in a directory is looked up there as long as all directories stay. -/
theorem LooksUp.carried {after : FileSystem π} (looks : LooksUp fs manner here part rest)
    (directories : ∀ other serial, fs.node? other = some (.directory serial) →
      after.node? other = some (.directory serial)) {rest' : List Bytes} :
    LooksUp after .follow here part rest' := by
  refine ⟨looks.leads, looks.ahead, nofun, ?_, looks.short⟩
  have there := isThere_iff.1 looks.there
  exact isThere_iff.2 fun name serial last => directories _ _ (there name serial last)

/-- `fs.Gains at_ g after`: the file `g` was put at a location where there was nothing or another
file, and all else is as it was. -/
structure Gains (fs : FileSystem π) (at_ : Location) (g : File π) (after : FileSystem π) :
    Prop where
  open_ : fs.node? at_ = none ∨ ∃ f, fs.node? at_ = some (.file f)
  gained : after.node? at_ = some (.file g)
  node?_of_ne : ∀ other, other ≠ at_ → after.node? other = fs.node? other

/-- A file that is put where nothing or a file stands is gained. -/
theorem gains_put {at_ : Location}
    (open_ : fs.node? at_ = none ∨ ∃ f, fs.node? at_ = some (.file f)) (g : File π) :
    fs.Gains at_ g (fs.put at_ (.file g)) where
  open_ := open_
  gained := node?_put_self _ _ (by rintro rfl; simp at open_)
  node?_of_ne _ ne := node?_put_of_ne _ _ ne

namespace Gains

variable {at_ other : Location} {g : File π} {after : FileSystem π} (h : fs.Gains at_ g after)
include h

/-- Every directory stays. -/
theorem node?_directory {serial : Nat} (found : fs.node? other = some (.directory serial)) :
    after.node? other = some (.directory serial) := by
  have open_ := h.open_
  rw [h.node?_of_ne other (by rintro rfl; simp [found] at open_), found]

/-- Every link stays. -/
theorem node?_link {target : Path} (found : fs.node? other = some (.link target)) :
    after.node? other = some (.link target) := by
  have open_ := h.open_
  rw [h.node?_of_ne other (by rintro rfl; simp [found] at open_), found]

/-- Every name is looked up as before. -/
theorem looksUp (looks : LooksUp fs manner here part rest) {rest' : List Bytes} :
    LooksUp after .follow here part rest' :=
  looks.carried fun _ _ => h.node?_directory

end Gains

namespace Walks

/-- What a walk ends at stands there, or nothing does if it ends at a free place. -/
theorem stands (h : Walks fs manner links here parts l) : l.Stands fs := by
  induction h with
  | arrives => trivial
  | idles idle more ih => exact ih
  | rises more ih => exact ih
  | follows looks found spells followed more ih => exact ih
  | keeps looks found kept => exact found
  | enters looks found spells more ih => exact ih
  | finds looks found spells => exact found
  | reaches looks found spells => exact found
  | misses looks found spells last => exact found

/-- A walk that goes on to a name has found a directory before it. -/
theorem exists_directory {name : Bytes} (named : name ≠ [])
    (h : Walks fs .follow links here (parts ++ [name]) l) :
    ∃ place, Walks fs .follow links here parts (.directory place) := by
  generalize whole : parts ++ [name] = all at h
  -- in every case there is nothing to show if the name is the first part of the walk
  induction h generalizing parts with
  | arrives => simp at whole
  | @idles links here part rest l idle more ih =>
    match parts, whole with
    | [], _ => exact ⟨here, .arrives⟩
    | _ :: parts, rfl =>
      obtain ⟨place, found⟩ := ih rfl
      exact ⟨place, .idles idle found⟩
  | @rises links here rest l more ih =>
    match parts, whole with
    | [], _ => exact ⟨here, .arrives⟩
    | _ :: parts, rfl =>
      obtain ⟨place, found⟩ := ih rfl
      exact ⟨place, .rises found⟩
  | @follows links here part rest target l looks found spells followed more ih =>
    match parts, whole with
    | [], _ => exact ⟨here, .arrives⟩
    | _ :: parts, rfl =>
      obtain ⟨place, onward⟩ := ih (List.append_assoc _ _ _)
      exact ⟨place, .follows looks.follow found spells (by simp) onward⟩
  | keeps looks found kept => cases kept
  | @enters links here part rest serial l looks found spells more ih =>
    match parts, whole with
    | [], _ => exact ⟨here, .arrives⟩
    | _ :: parts, rfl =>
      obtain ⟨place, onward⟩ := ih rfl
      exact ⟨place, .enters looks.follow found (spells_follow _ _) onward⟩
  | @finds links here part f looks found spells =>
    match parts, whole with
    | [], _ => exact ⟨here, .arrives⟩
    | _ :: _, whole => simp at whole
  | @reaches links here part d looks found spells =>
    match parts, whole with
    | [], _ => exact ⟨here, .arrives⟩
    | _ :: _, whole => simp at whole
  | @misses links here part rest looks found spells last =>
    match parts, whole with
    | [], _ => exact ⟨here, .arrives⟩
    | _ :: parts, rfl =>
      -- a name behind a free one would be refused
      simp [named] at last

/-- A slash behind a directory changes nothing. -/
theorem slashed {place : Place} (h : Walks fs .follow links here parts (.directory place)) :
    Walks fs .follow links here (parts ++ [[]]) (.directory place) := by
  generalize ends : (.directory place : Landing π) = l at h ⊢
  induction h with
  | arrives => exact .idles (.inl rfl) .arrives
  | idles idle more ih => exact .idles idle (ih ends)
  | rises more ih => exact .rises (ih ends)
  | follows looks found spells followed more ih =>
    have onward := ih ends
    rw [List.append_assoc] at onward
    exact .follows looks.follow found spells (by simp) onward
  | enters looks found spells more ih =>
    exact .enters looks.follow found (spells_follow _ _) (ih ends)
  | keeps => cases ends
  | finds => cases ends
  | reaches => cases ends
  | misses => cases ends

/-- Where a walk that may make a file has ended, a file that is put is found on the same way. -/
theorem gains {at_ : Location} {g : File π} {after : FileSystem π}
    (h : Walks fs .create links here parts l)
    (ends : (∃ f, l = .file at_ f) ∨ ∃ slashed, l = .free at_ slashed)
    (put : fs.Gains at_ g after) : Walks after .follow links here parts (.file at_ g) := by
  -- on the way there are directories and links, and these stay as they are
  induction h with
  | arrives => simp at ends
  | idles idle more ih => exact .idles idle (ih ends)
  | rises more ih => exact .rises (ih ends)
  | follows looks found spells followed more ih =>
    exact .follows (put.looksUp looks) (put.node?_link found) (spells_follow _ _) (by simp)
      (ih ends)
  | keeps looks found kept => cases kept
  | enters looks found spells more ih =>
    exact .enters (put.looksUp looks) (put.node?_directory found) (spells_follow _ _) (ih ends)
  | finds looks found spells =>
    obtain ⟨_, ⟨⟩⟩ | ⟨_, ⟨⟩⟩ := ends
    exact .finds (put.looksUp looks) put.gained (spells_follow _ _)
  | reaches => simp at ends
  | @misses links here part rest looks found spells last =>
    obtain ⟨_, ⟨⟩⟩ | ⟨_, ⟨⟩⟩ := ends
    -- a slash behind the name would have been refused
    obtain rfl : rest = [] :=
      Classical.byContradiction fun slashed => looks.unslashed ⟨rfl, slashed, last⟩
    exact .finds (put.looksUp looks) put.gained (spells_follow _ _)

/-- A way to a directory goes through directories and links, and is there wherever these are. -/
theorem directory_of_ways {after : FileSystem π} {place : Place}
    (h : Walks fs .follow links here parts (.directory place))
    (directories : ∀ other serial, fs.node? other = some (.directory serial) →
      after.node? other = some (.directory serial))
    (targets : ∀ other target, fs.node? other = some (.link target) →
      after.node? other = some (.link target)) :
    Walks after .follow links here parts (.directory place) := by
  generalize ends : (.directory place : Landing π) = l at h ⊢
  induction h with
  | arrives => exact .arrives
  | idles idle more ih => exact .idles idle (ih ends)
  | rises more ih => exact .rises (ih ends)
  | follows looks found spells followed more ih =>
    exact .follows (looks.carried directories) (targets _ _ found) (spells_follow _ _) (by simp)
      (ih ends)
  | enters looks found spells more ih =>
    exact .enters (looks.carried directories) (directories _ _ found) (spells_follow _ _) (ih ends)
  | keeps => cases ends
  | finds => cases ends
  | reaches => cases ends
  | misses => cases ends

end Walks

/-! ### Questions and changes -/

variable {start : Place} {path : Path}

/-- A path leads somewhere if it is not refused and a walk ends there. -/
theorem resolve_eq_ok_iff : fs.resolve start manner path = .ok l ↔
    refusal? path = none ∧ Walks fs manner linkLimit (origin start path) path.parts l := by
  unfold resolve
  rcases refusal? path with _ | cause
  · simp [walk_eq_ok_iff]
  · simp

/-- An absolute path leads to the same from everywhere. -/
theorem resolve_of_isAbsolute (fs : FileSystem π) (start start' : Place)
    (absolute : path.isAbsolute = true) (manner : Manner) :
    fs.resolve start manner path = fs.resolve start' manner path := by
  simp only [resolve, origin, absolute, if_true]

/-- An absolute path leads to the same entry from everywhere. -/
theorem resolveEntry_of_isAbsolute (fs : FileSystem π) (start start' : Place)
    (absolute : path.isAbsolute = true) :
    fs.resolveEntry start path = fs.resolveEntry start' path := by
  simp only [resolveEntry, origin, absolute, if_true]

/-- A path leads to a file. -/
theorem isFile_iff : fs.isFile start path = true ↔
    ∃ at_ f, fs.resolve start .follow path = .ok (.file at_ f) := by
  unfold isFile stat
  rcases fs.resolve start .follow path with _ | _ | _ | _ | _ | _ <;> simp

/-- A path leads to a directory. -/
theorem isDirectory_iff : fs.isDirectory start path = true ↔
    ∃ place, fs.resolve start .follow path = .ok (.directory place) := by
  unfold isDirectory stat
  rcases fs.resolve start .follow path with _ | _ | _ | _ | _ | _ <;> simp

/-- A path leads to a device. -/
theorem isDevice_iff : fs.isDevice start path = true ↔
    ∃ at_ d, fs.resolve start .follow path = .ok (.device at_ d) := by
  unfold isDevice stat
  rcases fs.resolve start .follow path with _ | _ | _ | _ | _ | _ <;> simp

/-- A path leads to one thing at a time: what it leads to is a file or a device. -/
theorem isFile_of_isDevice (device : fs.isDevice start path = true) :
    fs.isFile start path = false := by
  obtain ⟨at_, d, led⟩ := isDevice_iff.1 device
  unfold isFile stat
  rw [led]

/-- A file that is put where a path leads, for a file to be made, is found there. -/
theorem Gains.stat_eq {at_ : Location} {g : File π} {after : FileSystem π}
    (put : fs.Gains at_ g after) (led : fs.resolve start .create path = .ok l)
    (ends : (∃ f, l = .file at_ f) ∨ ∃ slashed, l = .free at_ slashed) :
    after.stat start path = .ok (.file at_ g) := by
  obtain ⟨fine, walks⟩ := resolve_eq_ok_iff.1 led
  unfold stat
  rw [resolve_eq_ok_iff.2 ⟨fine, walks.gains ends put⟩]

/-- Where a file is put, there was no directory and is none. -/
theorem Gains.isDirectory_eq {at_ : Location} {g : File π} {after : FileSystem π}
    (put : fs.Gains at_ g after) : after.isDirectory start path = fs.isDirectory start path := by
  rw [Bool.eq_iff_iff, isDirectory_iff, isDirectory_iff]
  refine exists_congr fun place => ?_
  rw [resolve_eq_ok_iff, resolve_eq_ok_iff]
  refine and_congr_right fun _ => ⟨fun walks => ?_, fun walks => ?_⟩
  · refine walks.directory_of_ways (fun other serial found => ?_) fun other target found => ?_
    all_goals rw [← put.node?_of_ne other (by rintro rfl; simp [put.gained] at found), found]
  · exact walks.directory_of_ways (fun _ _ => put.node?_directory) fun _ _ => put.node?_link

/-- A device that stands where a file is to be made is found at the path. -/
theorem Walks.reached {at_ : Location} {d : Device}
    (h : Walks fs .create links here parts (.device at_ d)) :
    Walks fs .follow links here parts (.device at_ d) := by
  generalize ends : (.device at_ d : Landing π) = l at h ⊢
  induction h with
  | idles idle more ih => exact .idles idle (ih ends)
  | rises more ih => exact .rises (ih ends)
  | follows looks found spells followed more ih =>
    exact .follows looks.follow found (spells_follow _ _) (by simp) (ih ends)
  | enters looks found spells more ih =>
    exact .enters looks.follow found (spells_follow _ _) (ih ends)
  | reaches looks found spells => exact .reaches looks.follow found (spells_follow _ _)
  | arrives => cases ends
  | keeps => cases ends
  | finds => cases ends
  | misses => cases ends

/-- A file or device that was just opened is written from its beginning. -/
theorem offset_createFile {handle : Handle} {after : FileSystem π}
    (h : fs.createFile start path = .ok (handle, after)) : handle.offset = 0 := by
  unfold createFile at h
  repeat' split at h
  all_goals cases h
  all_goals rfl

/-- **What is made is found.** A file that was made is empty, it is found at its path, and all else
is as it was. Where a device stands it is opened in its place, and nothing is changed. -/
theorem createFile_cases {handle : Handle} {after : FileSystem π}
    (h : fs.createFile start path = .ok (handle, after)) :
    (handle.device? = none ∧ ∃ g : File π, g.serial = handle.serial ∧ g.contents = [] ∧
      handle.offset = 0 ∧ fs.Gains handle.at_ g after ∧
      after.stat start path = .ok (.file handle.at_ g)) ∨
    (fs.isDevice start path = true ∧ after = fs ∧ ∃ d, handle.device? = some d) := by
  unfold createFile at h
  rcases led : fs.resolve start .create path
    with cause | place | ⟨at_, f⟩ | ⟨at_, d⟩ | _ | ⟨at_, slashed⟩
  all_goals simp only [led] at h
  · cases h
  · cases h
  · cases h
    have put := gains_put (.inr ⟨f, (resolve_eq_ok_iff.1 led).2.stands⟩)
      { f with contents := [], program := none }
    exact .inl ⟨rfl, { f with contents := [], program := none }, rfl, rfl, rfl, put,
      put.stat_eq led (.inl ⟨f, rfl⟩)⟩
  · split at h
    · cases h
    · cases h
      obtain ⟨fine, walks⟩ := resolve_eq_ok_iff.1 led
      exact .inr ⟨isDevice_iff.2 ⟨at_, d, resolve_eq_ok_iff.2 ⟨fine, walks.reached⟩⟩, rfl, d, rfl⟩
  · cases h
  · cases h
    -- the next serial is not asked for by any look-up
    have put : fs.Gains at_ ⟨fs.fresh, [], false, none⟩
        { fs.put at_ (.file ⟨fs.fresh, [], false, none⟩) with fresh := fs.fresh + 1 } :=
      have put := gains_put (.inl (resolve_eq_ok_iff.1 led).2.stands) ⟨fs.fresh, [], false, none⟩
      ⟨put.open_, put.gained, put.node?_of_ne⟩
    exact .inl ⟨rfl, _, rfl, rfl, rfl, put, put.stat_eq led (.inr ⟨slashed, rfl⟩)⟩

/-- Making a file makes no directory, and takes none away. -/
theorem isDirectory_createFile {handle : Handle} {after : FileSystem π} {dir : Path}
    (h : fs.createFile start path = .ok (handle, after)) :
    after.isDirectory start dir = fs.isDirectory start dir := by
  rcases createFile_cases h with ⟨-, g, -, -, -, put, -⟩ | ⟨-, same, -⟩
  · exact put.isDirectory_eq
  · rw [same]

/-- A path is refused if it has a zero byte, is empty or is too long, and for nothing else. -/
theorem refusal?_eq_none_iff : refusal? path = none ↔
    0 ∉ path.bytes ∧ path.bytes ≠ [] ∧ path.bytes.length < pathLimit := by
  unfold refusal?
  split
  · simp_all
  · split
    · simp_all
    · split <;> simp_all

/-- The beginning of a path leads from the same place, and is not refused if the path is not. -/
theorem resolve_of_append {bytes more : Bytes} (nonempty : bytes ≠ [])
    (h : fs.resolve start manner ⟨bytes ++ more⟩ = .ok l) :
    refusal? ⟨bytes⟩ = none ∧
      Walks fs manner linkLimit (origin start ⟨bytes⟩) ((bytes ++ more).splitOn Path.slash) l := by
  obtain ⟨fine, walks⟩ := resolve_eq_ok_iff.1 h
  obtain ⟨zero, -, short⟩ := refusal?_eq_none_iff.1 fine
  rw [List.mem_append, not_or] at zero
  rw [List.length_append] at short
  refine ⟨refusal?_eq_none_iff.2 ⟨zero.1, nonempty, by dsimp only; omega⟩, ?_⟩
  obtain ⟨first, rest, rfl⟩ := List.exists_cons_of_ne_nil nonempty
  exact walks

/-- **What bears a file is a directory.** -/
theorem isDirectory_of_isFile_child {name : String} (nonempty : path.bytes ≠ [])
    (named : Text.encode name ≠ []) (plain : Path.slash ∉ Text.encode name)
    (h : fs.isFile start (path.child name) = true) : fs.isDirectory start path = true := by
  obtain ⟨at_, f, led⟩ := isFile_iff.1 h
  obtain ⟨bytes⟩ := path
  have relative : (Path.ofString name).isAbsolute = false := by
    simp only [Path.isAbsolute, Path.ofString, beq_eq_false_iff_ne, ne_eq]
    exact fun first => plain (List.mem_of_head? first)
  have single : (Text.encode name).splitOn Path.slash = [Text.encode name] :=
    List.splitOn_eq_singleton plain
  simp only [Path.child, Path.join, relative, Bool.false_eq_true, if_false] at led
  refine isDirectory_iff.2 ?_
  split at led
  · next ends =>
    -- the path ends in a slash, and the name stands behind it
    obtain ⟨init, rfl⟩ := List.getLast?_eq_some_iff.1 (ends.resolve_left nonempty)
    obtain ⟨fine, walks⟩ := resolve_of_append nonempty led
    rw [List.append_assoc, List.singleton_append, List.splitOn_append_cons_self] at walks
    dsimp only [Path.ofString] at walks
    rw [single] at walks
    obtain ⟨place, found⟩ := walks.exists_directory named
    refine ⟨place, resolve_eq_ok_iff.2 ⟨fine, ?_⟩⟩
    rw [Path.parts, List.splitOn_append_cons_self]
    exact found.slashed
  · obtain ⟨fine, walks⟩ := resolve_of_append nonempty led
    rw [List.splitOn_append_cons_self] at walks
    dsimp only [Path.ofString] at walks
    rw [single] at walks
    obtain ⟨place, found⟩ := walks.exists_directory named
    exact ⟨place, resolve_eq_ok_iff.2 ⟨fine, found⟩⟩

end Orchestrator.FileSystem
