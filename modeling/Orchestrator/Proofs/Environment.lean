import Mathlib.Data.List.Basic
import Orchestrator.Context

namespace Orchestrator.Environment

/-!
# Environments — what a process finds under a name

An environment is a list of entries, and nothing keeps a caller from putting several entries for one
name into it. A process finds the first of them, and a process that means to change some variables
keeps the last.

* `IsName` — the names that entries can have.
* `asBinding?_eq_some_iff` — an entry is read as the name and the value that it was made of.
* `values` — the values that the entries of an environment have for a name.
* `value?_eq` — a process finds the first of them.
* `value?_bindAll` — what is bound counts, and of several bindings the last.
* `value?_reread` — a process that changes some variables keeps the last value of the others.
-/

/-- A name that an entry can have: it has something in it, and no equals sign behind its first byte.
Every name is one that is not empty and has no equals sign at all. -/
structure IsName (name : Bytes) : Prop where
  some_ : name ≠ []
  whole : equals ∉ name.tail

theorem isName_iff {name : Bytes} : IsName name ↔ name ≠ [] ∧ equals ∉ name.tail :=
  ⟨fun h => ⟨h.some_, h.whole⟩, fun h => ⟨h.1, h.2⟩⟩

instance : DecidablePred IsName := fun _ => decidable_of_iff _ isName_iff.symm

variable {name value : Bytes} {bytes : Bytes} {bindings : List (Bytes × Bytes)} {env : Environment}

/-! ### Entries -/

/-- The name ends at the first equals sign behind its first byte. -/
theorem asBinding?_cons {first : UInt8} {more : Bytes} (whole : equals ∉ more) (value : Bytes) :
    asBinding? (first :: (more ++ equals :: value)) = some (first :: more, value) := by
  have within : ∀ b ∈ more, (b != equals) = true := by
    intro b mem
    simp only [bne_iff_ne]
    rintro rfl
    exact whole mem
  have cut : (more ++ equals :: value).takeWhile (· != equals) = more := by
    rw [List.takeWhile_append_of_pos within, List.takeWhile_cons_of_neg (by simp), List.append_nil]
  simp only [asBinding?, cut, List.drop_left, List.tail?_cons, Option.map_some]

/-- Without an equals sign there is no name. -/
theorem asBinding?_of_notMem {first : UInt8} {rest : Bytes} (none : equals ∉ rest) :
    asBinding? (first :: rest) = .none := by
  have within : ∀ b ∈ rest, (b != equals) = true := by
    intro b mem
    simp only [bne_iff_ne]
    rintro rfl
    exact none mem
  have all : rest.takeWhile (· != equals) = rest := by
    have cut : (rest ++ []).takeWhile (· != equals) = rest ++ [] :=
      List.takeWhile_append_of_pos within
    rwa [List.append_nil] at cut
  simp only [asBinding?, all, List.drop_length, List.tail?_nil, Option.map_none]

/-- An entry is read as the name and the value that it was made of, and as no others. -/
theorem asBinding?_eq_some_iff :
    asBinding? bytes = some (name, value) ↔ IsName name ∧ bytes = entry name value := by
  constructor
  · intro read
    cases bytes with
    | nil => cases read
    | cons first rest =>
      -- a name may begin with the sign, so the cut is at the first one behind that
      by_cases cut : equals ∈ rest
      · obtain ⟨more, behind, rfl, whole⟩ := List.eq_append_cons_of_mem cut
        rw [asBinding?_cons whole] at read
        cases read
        exact ⟨⟨by simp, whole⟩, rfl⟩
      · rw [asBinding?_of_notMem cut] at read
        cases read
  · rintro ⟨⟨some_, whole⟩, rfl⟩
    obtain ⟨first, more, rfl⟩ := List.exists_cons_of_ne_nil some_
    exact asBinding?_cons whole value

/-- The value that an entry has for a name. -/
def valueIn? (name : Bytes) (binding : Bytes × Bytes) : Option Bytes :=
  (asBinding? (entry binding.1 binding.2)).bind fun read =>
    if read.1 = name then some read.2 else none

/-- An entry has just what it was made of. -/
theorem valueIn?_eq (isName : IsName name) {other : Bytes} (value : Bytes) :
    valueIn? other (name, value) = if name = other then some value else none := by
  have read : asBinding? (entry name value) = some (name, value) :=
    asBinding?_eq_some_iff.2 ⟨isName, rfl⟩
  rw [valueIn?, read, Option.bind_some]

/-- The values that the entries of an environment have for a name, in their order. -/
def values (env : Environment) (name : Bytes) : List Bytes := env.filterMap (valueIn? name)

/-- A process looks for an entry that begins with the name and an equals sign. -/
theorem valueIn?_eq_ite (isName : IsName name) (binding : Bytes × Bytes) :
    valueIn? name binding =
      let wanted := name ++ [equals]
      let entry := entry binding.1 binding.2
      if wanted.isPrefixOf entry then some (entry.drop wanted.length) else none := by
  obtain ⟨key, value⟩ := binding
  dsimp only
  by_cases begins : name ++ [equals] <+: entry key value
  · obtain ⟨behind, split⟩ := begins
    -- the entry begins with the name and the sign, so it is cut there
    have made : entry name behind = entry key value := by
      rw [← split, entry, List.append_assoc, List.singleton_append]
    have read : asBinding? (entry key value) = some (name, behind) :=
      asBinding?_eq_some_iff.2 ⟨isName, made.symm⟩
    have drop : (entry key value).drop (name ++ [equals]).length = behind := by
      rw [← split, List.drop_left]
    rw [if_pos (List.isPrefixOf_iff_prefix.2 ⟨behind, split⟩), drop, valueIn?, read,
      Option.bind_some, if_pos rfl]
  · rw [if_neg (mt List.isPrefixOf_iff_prefix.1 begins), valueIn?]
    cases read : asBinding? (entry key value) with
    | none => rfl
    | some found =>
      obtain ⟨other, behind⟩ := found
      obtain ⟨-, made⟩ := asBinding?_eq_some_iff.1 read
      have differs : other ≠ name := by
        rintro rfl
        exact begins ⟨behind, by rw [made, entry, List.append_assoc, List.singleton_append]⟩
      rw [Option.bind_some, if_neg differs]

/-- A process finds the first value that the entries have for a name. -/
theorem value?_eq (isName : IsName name) (env : Environment) :
    env.value? name = (env.values name).head? := by
  have same : valueIn? name = _ := funext (valueIn?_eq_ite isName)
  rw [values, List.head?_filterMap, same, value?, if_neg isName.some_]

/-! ### Bindings -/

/-- Every entry has a name and a value, and is read as these. -/
abbrev Named (env : Environment) : Prop := ∀ binding ∈ env, IsName binding.1

/-- The first of the entries decides, if it is for the name that is looked for. -/
theorem value?_cons (isName : IsName name) {key : Bytes} (isKey : IsName key) (value : Bytes)
    (rest : Environment) :
    value? ((key, value) :: rest) name = if key = name then some value else rest.value? name := by
  rw [value?_eq isName, value?_eq isName, values, List.filterMap_cons, valueIn?_eq isKey]
  by_cases same : key = name
  · rw [if_pos same, if_pos same]
    rfl
  · rw [if_neg same, if_neg same]
    rfl

/-- Binding a name brings in no other entry than its own. -/
theorem mem_bind {binding : Bytes × Bytes} (mem : binding ∈ env.bind name value) :
    binding = (name, value) ∨ binding ∈ env := by
  induction env with
  | nil => exact .inl (List.mem_singleton.1 mem)
  | cons first rest ih =>
    rw [bind] at mem
    split at mem
    · exact (List.mem_cons.1 mem).imp_right (List.mem_cons_of_mem _)
    · split at mem
      · exact List.mem_cons.1 mem
      · rcases List.mem_cons.1 mem with rfl | mem
        · exact .inr (List.mem_cons_self ..)
        · exact (ih mem).imp_right (List.mem_cons_of_mem _)

/-- An environment in which every entry is named stays one when a name is bound. -/
theorem Named.bind (named : Named env) (isName : IsName name) (value : Bytes) :
    Named (env.bind name value) := by
  intro binding mem
  rcases mem_bind mem with rfl | mem
  · exact isName
  · exact named binding mem

/-- What is bound is found, and what else was found still is. -/
theorem value?_bind (isName : IsName name) (named : Named env) {other : Bytes}
    (isOther : IsName other) (value : Bytes) :
    (env.bind other value).value? name = if other = name then some value else env.value? name := by
  induction env with
  | nil => exact value?_cons isName isOther value []
  | cons binding rest ih =>
    obtain ⟨key, old⟩ := binding
    obtain ⟨isKey, named⟩ := List.forall_mem_cons.1 named
    rw [bind]
    split
    · next same =>
      subst same
      rw [value?_cons isName isOther, value?_cons isName isOther]
      split <;> rfl
    · next differs =>
      split
      · exact value?_cons isName isOther value _
      · -- the binding is put in behind an entry for another name
        rw [value?_cons isName isKey, value?_cons isName isKey, ih named]
        split
        · next same => rw [if_neg (same ▸ differs)]
        · rfl

/-- An environment in which every entry is named stays one under any bindings of names. -/
theorem Named.bindAll (named : Named env) (names : Named bindings) :
    Named (env.bindAll bindings) := by
  induction bindings generalizing env with
  | nil => exact named
  | cons binding rest ih =>
    obtain ⟨isName, names⟩ := List.forall_mem_cons.1 names
    exact ih (named.bind isName binding.2) names

/-- The values that are bound to a name, in their order. -/
def bound (bindings : List (Bytes × Bytes)) (name : Bytes) : List Bytes :=
  (bindings.filter (·.1 = name)).map (·.2)

/-- What is bound is found, and of several bindings the last. -/
theorem value?_bindAll (isName : IsName name) (named : Named env) (names : Named bindings) :
    (env.bindAll bindings).value? name = (bound bindings name).getLast?.or (env.value? name) := by
  induction bindings generalizing env with
  | nil => rfl
  | cons binding rest ih =>
    obtain ⟨other, value⟩ := binding
    obtain ⟨isOther, names⟩ := List.forall_mem_cons.1 names
    show ((env.bind other value).bindAll rest).value? name = _
    -- bindings apply from the first on, so that later ones win
    rw [ih (named.bind isOther value) names, value?_bind isName named isOther]
    by_cases same : other = name
    · have more : bound ((other, value) :: rest) name = value :: bound rest name := by
        simp [bound, same]
      rw [if_pos same, more, List.getLast?_cons]
      cases (bound rest name).getLast? <;> rfl
    · have more : bound ((other, value) :: rest) name = bound rest name := by
        simp [bound, same]
      rw [if_neg same, more]

/-! ### Environments that are read again -/

/-- The entries that an environment has once it is read again. -/
def readings (env : Environment) : List (Bytes × Bytes) :=
  env.filterMap fun (name, value) => asBinding? (entry name value)

/-- What an entry is read as has a name. -/
theorem named_readings (env : Environment) : Named (readings env) := by
  rintro ⟨name, value⟩ mem
  obtain ⟨binding, -, read⟩ := List.mem_filterMap.1 mem
  exact (asBinding?_eq_some_iff.1 read).1

/-- The bindings that are read for a name are the values that the entries have for it. -/
theorem bound_readings (env : Environment) (name : Bytes) :
    bound (readings env) name = env.values name := by
  rw [bound, ← List.filterMap_eq_map, ← List.filterMap_eq_filter, List.filterMap_filterMap,
    readings, List.filterMap_filterMap, values]
  refine congrArg (List.filterMap · env) (funext fun binding => congrArg (Option.bind _) ?_)
  funext read
  by_cases same : read.1 = name <;> simp [Option.guard, same]

/-- A process that changes some variables keeps the last value of the others. -/
theorem value?_reread (isName : IsName name) (env : Environment) :
    env.reread.value? name = (env.values name).getLast? := by
  have named : Named [] := List.forall_mem_nil _
  have none : value? [] name = .none := by rw [value?_eq isName, values]; rfl
  rw [← bound_readings]
  show (bindAll [] (readings env)).value? name = _
  rw [value?_bindAll isName named (named_readings env), none, Option.or_none]

/-- In an environment that was read again every entry is named. -/
theorem named_reread (env : Environment) : Named env.reread :=
  Named.bindAll (List.forall_mem_nil _) (named_readings env)

end Orchestrator.Environment
