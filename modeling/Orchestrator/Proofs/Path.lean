import Mathlib.Data.List.Basic
import Orchestrator.Path
import Orchestrator.Proofs.Text.Utf8

namespace Orchestrator.Path

/-!
# Paths — what is put below a path

* `Path.bytes_join` — a relative path is put behind another one and a slash, if there is none yet.
* `Path.isAbsolute_join` — what is below an absolute path is absolute.
* `Path.components_child` — an entry of a path is one step more.
* `Path.descend_prefix_iff` — what is reached from a path by names is told apart by the names.
* `Path.ofString_display` — the text of a path spells this path, if it is the path of a text.
-/

variable {p q : Path} {name : String}

/-- What is put between a path and one below it. -/
def seam (p : Path) : Bytes := if p.bytes = [] ∨ p.bytes.getLast? = some slash then [] else [slash]

/-- A relative path is put behind the first one, with what is missing of a slash between them. -/
theorem bytes_join (relative : q.isAbsolute = false) :
    (p.join q).bytes = p.bytes ++ (p.seam ++ q.bytes) := by
  unfold join seam
  rw [if_neg (by simp [relative])]
  split <;> simp

/-- Different relative paths below a path are different. -/
theorem join_injective {q' : Path} (relative : q.isAbsolute = false)
    (relative' : q'.isAbsolute = false) (h : p.join q = p.join q') : q = q' := by
  have bytes : (p.join q).bytes = (p.join q').bytes := congrArg Path.bytes h
  rw [bytes_join relative, bytes_join relative', List.append_cancel_left_eq,
    List.append_cancel_left_eq] at bytes
  exact congrArg Path.mk bytes

/-- A path without a slash is relative. -/
theorem isAbsolute_of_notMem (whole : slash ∉ q.bytes) : q.isAbsolute = false := by
  simp only [isAbsolute, beq_eq_false_iff_ne]
  exact fun first => whole (List.mem_of_head? first)

/-- What is joined to an absolute path is absolute. -/
theorem isAbsolute_join (absolute : p.isAbsolute = true) : (p.join q).isAbsolute = true := by
  by_cases other : q.isAbsolute = true
  · rw [join_of_isAbsolute other, other]
  · have first : p.bytes.head? = some slash := by simpa [isAbsolute] using absolute
    obtain ⟨rest, bytes⟩ := List.head?_eq_some_iff.1 first
    unfold isAbsolute
    rw [bytes_join (by simpa using other), bytes]
    rfl

/-- A child of an absolute path has an absolute path. -/
theorem isAbsolute_child (absolute : p.isAbsolute = true) : (p.child name).isAbsolute = true :=
  isAbsolute_join absolute

/-! ### Steps -/

/-- A path that begins as another one and has more parts takes the same steps and then more. -/
theorem components_append {more : List Component} (begins : q.isAbsolute = p.isAbsolute)
    (first : q.parts.head? = p.parts.head?)
    (rest : q.parts.filterMap component? = p.parts.filterMap component? ++ more) :
    q.components = p.components ++ more := by
  simp only [components, begins, first, rest]
  split
  · rfl
  · split <;> rfl

/-- A name that is one step of a path. -/
structure IsStep (name : String) : Prop where
  whole : slash ∉ Text.encode name
  step : component? (Text.encode name) = some (.name (Text.encode name))

/-- The name of a step is a relative path. -/
theorem IsStep.isAbsolute_eq (h : IsStep name) : (ofString name).isAbsolute = false :=
  isAbsolute_of_notMem h.whole

/-- The name of a step is one part, and this part is read as a name. -/
theorem IsStep.parts_eq (h : IsStep name) : (ofString name).parts = [Text.encode name] ∧
    [Text.encode name].filterMap component? = [.name (Text.encode name)] := by
  refine ⟨List.splitOn_eq_singleton h.whole, ?_⟩
  rw [List.filterMap_cons, h.step, List.filterMap_nil]

/-- The name of a step is one step by itself. -/
theorem IsStep.components_eq (h : IsStep name) :
    (ofString name).components = [.name (Text.encode name)] := by
  have notDot : Text.encode name ≠ dot := by
    intro same
    have step := h.step
    rw [same] at step
    cases step
  obtain ⟨parts, last⟩ := h.parts_eq
  rw [components, parts, last, h.isAbsolute_eq]
  simp [notDot]

/-- A name behind a slash is one part more. -/
theorem parts_of_step {init : Bytes} (h : IsStep name)
    (bytes : q.bytes = init ++ slash :: Text.encode name) :
    q.parts = init.splitOn slash ++ [Text.encode name] := by
  rw [Path.parts, bytes, List.splitOn_append_cons_self, List.splitOn_eq_singleton h.whole]

/-- Parts that are added behind leave the first one. -/
theorem head?_splitOn_append (bytes : Bytes) (more : List Bytes) :
    (bytes.splitOn slash ++ more).head? = (bytes.splitOn slash).head? := by
  obtain ⟨part, parts, cut⟩ := List.exists_cons_of_ne_nil (List.splitOn_ne_nil slash bytes)
  rw [cut]
  rfl

/-- An entry of a path is one step more. -/
theorem components_child (h : IsStep name) :
    (p.child name).components = p.components ++ [.name (Text.encode name)] := by
  obtain ⟨bytes⟩ := p
  have last := h.parts_eq.2
  by_cases none : bytes = []
  · -- there is nothing but the name
    subst none
    have joined : child ⟨[]⟩ name = ofString name := by
      rw [child, join, if_neg (by simp [h.isAbsolute_eq]), if_pos (.inl rfl)]
      rfl
    have empty : (⟨[]⟩ : Path).components = [] := by decide
    rw [joined, empty, h.components_eq, List.nil_append]
  by_cases ends : bytes.getLast? = some slash
  · -- the name takes the place of the empty part behind the slash
    obtain ⟨init, rfl⟩ := List.getLast?_eq_some_iff.1 ends
    have joined : (child ⟨init ++ [slash]⟩ name).bytes = init ++ slash :: Text.encode name := by
      rw [child, bytes_join h.isAbsolute_eq, seam, if_pos (.inr ends), List.nil_append,
        List.append_assoc]
      rfl
    have parts := parts_of_step h joined
    have parts' : (⟨init ++ [slash]⟩ : Path).parts = init.splitOn slash ++ [[]] := by
      rw [Path.parts, List.splitOn_append_cons_self]
      rfl
    refine components_append ?_ ?_ ?_
    · simp only [isAbsolute, joined]
      cases init <;> rfl
    · rw [parts, parts', head?_splitOn_append, head?_splitOn_append]
    · rw [parts, parts', List.filterMap_append, List.filterMap_append, last]
      simp [component?]
  · -- a slash is put in, and the name is a part behind it
    have joined : (child ⟨bytes⟩ name).bytes = bytes ++ slash :: Text.encode name := by
      rw [child, bytes_join h.isAbsolute_eq, seam, if_neg (by simp [none, ends])]
      rfl
    have parts := parts_of_step h joined
    refine components_append ?_ ?_ ?_
    · obtain ⟨first, rest, rfl⟩ := List.exists_cons_of_ne_nil none
      simp only [isAbsolute, joined]
      rfl
    · rw [parts, head?_splitOn_append]
      rfl
    · rw [parts, List.filterMap_append, last]
      rfl

/-- A text is one step of a path if it has no slash in it, and is not empty and no dots. -/
theorem isStep_of_text (whole : '/' ∉ name.toList) (some_ : name ≠ "") (notDot : name ≠ ".")
    (notDots : name ≠ "..") : IsStep name := by
  have differs {other : String} (h : name ≠ other) : Text.encode name ≠ Text.encode other :=
    mt Text.encode_inj.1 h
  refine ⟨fun mem => ?_, ?_⟩
  · obtain ⟨c, within, number⟩ := Text.mem_of_mem_encode (by decide) mem
    have same : c = '/' := Char.toNat_inj.1 number
    exact whole (same ▸ within)
  · have empty : Text.encode "" = [] := rfl
    have isDot : Text.encode "." = dot := by decide
    have areDots : Text.encode ".." = dotDot := by decide
    rw [component?, if_neg, if_neg]
    · exact areDots ▸ differs notDots
    · exact not_or.2 ⟨empty ▸ differs some_, isDot ▸ differs notDot⟩

/-- An entry of a path below another one is an entry of what is below. -/
theorem join_child (relative : q.isAbsolute = false) (some_ : q.bytes ≠ []) (h : IsStep name) :
    p.join (q.child name) = (p.join q).child name := by
  have begins : (q.child name).isAbsolute = false := by
    obtain ⟨first, rest, bytes⟩ := List.exists_cons_of_ne_nil some_
    have first_ : (q.child name).bytes.head? = q.bytes.head? := by
      rw [child, bytes_join h.isAbsolute_eq, bytes]
      rfl
    rw [isAbsolute, first_]
    exact relative
  -- what is missing before the name depends on the last byte alone
  have seam : (p.join q).seam = q.seam := by
    have none : p.bytes ++ (p.seam ++ q.bytes) ≠ [] := by simp [some_]
    have last : (p.bytes ++ (p.seam ++ q.bytes)).getLast? = q.bytes.getLast? := by
      rw [← List.append_assoc, List.getLast?_append_of_ne_nil _ some_]
    rw [Path.seam, Path.seam, bytes_join relative, last]
    simp only [none, some_, false_or]
  refine congrArg Path.mk ?_
  show (p.join (q.child name)).bytes = ((p.join q).child name).bytes
  rw [bytes_join begins, child, child, bytes_join h.isAbsolute_eq, bytes_join h.isAbsolute_eq, seam,
    bytes_join relative]
  simp only [List.append_assoc]

/-- What is reached from a path by names, one below the other. -/
def descend (p : Path) (names : List String) : Path := names.foldl child p

/-- Going down some steps adds them to the components, each as it is named. -/
theorem components_descend {names : List String} (steps : ∀ name ∈ names, IsStep name) :
    (p.descend names).components
      = p.components ++ names.map fun name => .name (Text.encode name) := by
  induction names generalizing p with
  | nil => simp [descend]
  | cons name rest ih =>
    obtain ⟨isStep, steps⟩ := List.forall_mem_cons.1 steps
    show ((p.child name).descend rest).components = _
    rw [ih steps, components_child isStep, List.append_assoc, List.singleton_append, List.map_cons]

/-- Different names are different steps. -/
theorem step_injective : Function.Injective fun name => Component.name (Text.encode name) := by
  intro name name' same
  exact Text.encode_inj.1 (Component.name.inj same)

/-- What is reached by names lies in what is reached by others only if the names go on from them. -/
theorem descend_prefix_iff {names names' : List String} (steps : ∀ name ∈ names, IsStep name)
    (steps' : ∀ name ∈ names', IsStep name) :
    (p.descend names).components <+: (p.descend names').components ↔ names <+: names' := by
  rw [components_descend steps, components_descend steps', List.prefix_append_right_inj,
    List.prefix_map_iff_of_injective step_injective]

/-- Different names lead to different places. -/
theorem components_descend_ne {names names' : List String} (steps : ∀ name ∈ names, IsStep name)
    (steps' : ∀ name ∈ names', IsStep name) (differ : names ≠ names') :
    (p.descend names).components ≠ (p.descend names').components := by
  intro same
  rw [components_descend steps, components_descend steps'] at same
  exact differ (step_injective.list_map (List.append_cancel_left same))

/-! ### Texts -/

/-- The path is that of a text. -/
abbrev IsText (p : Path) : Prop := Text.IsText p.bytes

/-- A path that is text can be read back from how it is shown. -/
theorem ofString_display (h : p.IsText) : ofString p.display = p := congrArg Path.mk h

theorem isText_ofString (s : String) : (ofString s).IsText := Text.isText_iff.2 ⟨s, rfl⟩

/-- Joining two paths that are text gives text. -/
theorem IsText.join (h : p.IsText) (h' : q.IsText) : (p.join q).IsText := by
  by_cases absolute : q.isAbsolute = true
  · rwa [join_of_isAbsolute absolute]
  · have slash : Text.IsText p.seam := by
      unfold seam
      split <;> decide
    rw [IsText, bytes_join (by simpa using absolute)]
    exact h.append (slash.append h')

/-- A child is named by text, so only the path it is a child of has to be text. -/
theorem IsText.child (h : p.IsText) (name : String) : (p.child name).IsText :=
  h.join (isText_ofString name)

end Orchestrator.Path
