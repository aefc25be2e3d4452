import Mathlib.Data.List.Infix
import Orchestrator.Example
import Orchestrator.Proofs.Text.Order

namespace Orchestrator

/-!
# Selection — the wanted names, in one order

Nobody knows in what order the names in a directory are listed. The examples are run in the order of
their names all the same.

* `ExampleFilter.select_perm` — just the wanted names are selected, each as often as it is given.
* `ExampleFilter.pairwise_select` — they are in ascending order.
* `ExampleFilter.select_eq_of_perm` — that leaves one list.
* `ExampleFilter.select_is_canonical` — what is selected, in which order, and from which lists.
* `discover_eq_of_perm` — so the paths of the examples are the same for every listing.
-/

namespace ExampleFilter

variable (f : ExampleFilter) (names : List String)

/-- Just the wanted names are selected, each as often as it is given. -/
theorem select_perm : (f.select names).Perm (names.filter f.accepts) :=
  List.mergeSort_perm _ _

/-- The selected names are in ascending order. -/
theorem pairwise_select : (f.select names).Pairwise (· ≤ ·) := by
  have trans (a b c : String) (le : decide (a ≤ b) = true) (le' : decide (b ≤ c) = true) :
      decide (a ≤ c) = true :=
    decide_eq_true (String.le_trans (of_decide_eq_true le) (of_decide_eq_true le'))
  have total (a b : String) : (decide (a ≤ b) || decide (b ≤ a)) = true := by
    simpa using String.le_total a b
  exact (List.pairwise_mergeSort trans total _).imp of_decide_eq_true

variable {f names}

/-- Only one list has the wanted names in ascending order. -/
theorem select_eq_of_perm {others : List String}
    (same : (others.filter f.accepts).Perm (names.filter f.accepts)) :
    f.select others = f.select names := by
  refine List.Perm.eq_of_pairwise (fun a b _ _ => String.le_antisymm) (f.pairwise_select others)
    (f.pairwise_select names) ?_
  exact (f.select_perm others).trans (same.trans (f.select_perm names).symm)

/-- A name is selected as often as it was listed, or not at all. -/
theorem count_select {name : String} : (f.select names).count name =
    if f.include_.toList <:+: name.toList ∧ ¬f.exclude.toList <:+: name.toList
      then names.count name else 0 := by
  rw [(f.select_perm names).count_eq]
  split
  · next wanted => exact List.count_filter (accepts_iff.2 wanted)
  · next unwanted =>
    refine List.count_eq_zero.2 fun mem => unwanted ?_
    exact accepts_iff.1 (List.mem_filter.1 mem).2

/-- **The order of a listing does not matter.** Of any names those are selected that contain the
one text of the filter and do not contain the other, each as often as it is given. They are in
ascending order of their code points, and that is the order of their bytes. The same names in any
other order give the same result, and to select from a result once more changes nothing. -/
theorem select_is_canonical (f : ExampleFilter) (names : List String) :
    (∀ name, (f.select names).count name =
      if f.include_.toList <:+: name.toList ∧ ¬f.exclude.toList <:+: name.toList
        then names.count name else 0) ∧
    (f.select names).Pairwise (fun a b => Text.codePoints a ≤ Text.codePoints b) ∧
    (∀ a b : String,
      Text.codePoints a ≤ Text.codePoints b ↔ Text.encode a ≤ Text.encode b) ∧
    (∀ others : List String, others.Perm names → f.select others = f.select names) ∧
    f.select (f.select names) = f.select names := by
  refine ⟨fun name => count_select, ?_, fun a b => ?_, fun others same => ?_, ?_⟩
  · exact (f.pairwise_select names).imp Text.codePoints_le_iff.2
  · rw [Text.codePoints_le_iff, Text.encode_le_iff]
  · exact select_eq_of_perm (same.filter f.accepts)
  · refine select_eq_of_perm ?_
    have again : (names.filter f.accepts).filter f.accepts = names.filter f.accepts := by
      rw [List.filter_filter]
      simp
    exact again ▸ (f.select_perm names).filter f.accepts

/-- Two names are selected, in whichever order the four are listed. -/
theorem select_is_canonical_fourNames :
    let names := ["notanexample", "example_human_only_c", "example_a", "example_b"]
    let others := ["example_b", "example_a", "example_human_only_c", "notanexample"]
    others.Perm names ∧ standard.select others = ["example_a", "example_b"] := by
  intro names others
  have same : others.Perm names := by decide
  have wanted : names.filter standard.accepts = ["example_a", "example_b"] := by decide
  have selected : standard.select names = ["example_a", "example_b"] := by
    rw [select, wanted]
    exact List.mergeSort_of_pairwise (by decide)
  obtain ⟨-, -, -, all, -⟩ := select_is_canonical standard names
  exact ⟨same, (all others same).trans selected⟩

end ExampleFilter

/-- Two directories that list the same names, in whatever order, give the same paths. -/
theorem discover_eq_of_perm {π : Type} {fs fs' : FileSystem π} {start start' : Place} {dir : Path}
    {names others : List Bytes} (listed : fs.list start dir = .ok names)
    (listed' : fs'.list start' dir = .ok others) (same : others.Perm names)
    (f : ExampleFilter) : discover fs' start' dir f = discover fs start dir f := by
  have selected : f.select (others.map Text.decode) = f.select (names.map Text.decode) :=
    ExampleFilter.select_eq_of_perm ((same.map Text.decode).filter f.accepts)
  rw [discover, discover, listed, listed']
  exact congrArg (fun names => Except.ok (names.map dir.child)) selected

end Orchestrator
