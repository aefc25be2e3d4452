import Orchestrator.Boost.Request
import Orchestrator.Proofs.Path

namespace Orchestrator.Boost

/-!
# Versions — builds of different versions below one root

The places of a build are reached from its root by names, and all names but those of the directory
to extract into, the script and the build tool tell the version.

* `Request.versionName_inj` — the name of a version tells all of it.
* `Layout.artifacts` — what a build of a version has for itself.
* `Request.artifacts_eq` — the names that lead there.
* `versions_share_nothing` — no two versions have any of it in common.
-/

namespace Request

/-- The version that is wanted. -/
def version (r : Request) : UInt32 × UInt32 × UInt32 := (r.major, r.minor, r.patch)

/-! ### Names -/

/-- The name of a version has underscores between its numbers. -/
theorem toList_versionName (r : Request) :
    r.versionName.toList = ['_'].intercalate
      ["boost".toList, Nat.toDigits 10 r.major.toNat, Nat.toDigits 10 r.minor.toNat,
        Nat.toDigits 10 r.patch.toNat] := by
  simp [versionName, List.intercalate_cons_cons, Nat.toString_eq_repr]

/-- The name of a version tells all of it: it can be cut at its underscores again, and the numbers
have none. -/
theorem versionName_inj {r r' : Request} :
    r.versionName = r'.versionName ↔ r.version = r'.version := by
  -- a numeral has no underscore in it, so the name falls into its parts at these
  have cut (r : Request) : r.versionName.toList.splitOn '_' =
      ["boost".toList, Nat.toDigits 10 r.major.toNat, Nat.toDigits 10 r.minor.toNat,
        Nat.toDigits 10 r.patch.toNat] := by
    rw [toList_versionName]
    refine List.splitOn_intercalate '_' ?_ (List.cons_ne_nil _ _)
    simp [Nat.underscore_not_in_toDigits]
  have number {m n : UInt32} (same : Nat.toDigits 10 m.toNat = Nat.toDigits 10 n.toNat) :
      m = n := by
    have read := congrArg (Nat.ofDigitChars 10 · 0) same
    simp only [Nat.ofDigitChars_ten_toDigits] at read
    exact UInt32.toNat_inj.1 read
  constructor
  · intro same
    have pieces := cut r
    rw [same, cut r'] at pieces
    simp only [List.cons.injEq, and_true, true_and] at pieces
    obtain ⟨major, minor, patch⟩ := pieces
    rw [version, version, number major, number minor, number patch]
  · intro same
    simp only [version, Prod.mk.injEq] at same
    obtain ⟨major, minor, patch⟩ := same
    rw [versionName, versionName, major, minor, patch]

/-- Tarballs of different versions have different names. -/
theorem tarballName_inj {r r' : Request} :
    r.tarballName = r'.tarballName ↔ r.version = r'.version := by
  rw [← versionName_inj, tarballName, tarballName, String.append_left_inj]

/-! ### Steps -/

/-- What begins as the name of a version does is longer than the word it begins with. -/
theorem versionName_append_ne (r : Request) (more : String) {short : String}
    (brief : short.toList.length ≤ 5) : r.versionName ++ more ≠ short := by
  rintro rfl
  have word : "boost".toList.length = 5 := rfl
  rw [String.toList_append, toList_versionName, List.intercalate_cons_cons] at brief
  simp only [List.length_append, List.length_singleton] at brief
  omega

/-- It is one step of a path if it goes on without a slash. -/
theorem isStep_versionName_append (r : Request) {more : String} (whole : '/' ∉ more.toList) :
    Path.IsStep (r.versionName ++ more) := by
  have digits (n : Nat) : '/' ∉ Nat.toDigits 10 n := by
    intro mem
    have isDigit := Nat.isDigit_of_mem_toDigits (by decide) (by decide) mem
    revert isDigit
    decide
  have differs := @r.versionName_append_ne more
  refine Path.isStep_of_text ?_ (differs (by decide)) (differs (by decide)) (differs (by decide))
  simp [toList_versionName, List.intercalate_cons_cons, digits, whole]

/-- The directory of a version is one step below its parent. -/
theorem isStep_versionName (r : Request) : Path.IsStep r.versionName := by
  have step : Path.IsStep (r.versionName ++ "") := r.isStep_versionName_append (by decide)
  rwa [String.append_empty] at step

/-- The tarball is one step below the root. -/
theorem isStep_tarballName (r : Request) : Path.IsStep r.tarballName :=
  r.isStep_versionName_append (by decide)

/-- The tarball does not stand where the directory of all versions does. -/
theorem tarballName_ne_parentName (r : Request) : r.tarballName ≠ parentName :=
  r.versionName_append_ne ".tar.gz" (by decide)

end Request

/-! ### Places -/

/-- What a build of a version has for itself: its sources as they are downloaded and as they are
extracted, the script that makes the build tool, and the build tool. -/
def Layout.artifacts (layout : Layout) : List Path :=
  [layout.tarball, layout.extractDir, layout.bootstrap, layout.b2]

namespace Request

/-- The names that lead from the root to what a build has for itself. -/
def artifactNames (r : Request) : List (List String) :=
  let sources := [parentName, r.versionName]
  [[r.tarballName], sources, sources ++ ["bootstrap.sh"], sources ++ ["b2"]]

/-- The directory of all versions is one step below the root. -/
theorem parentDir_eq (r : Request) (root : Path) :
    (r.layout root).parentDir = root.descend [parentName] := rfl

/-- The directory of a version is two steps below the root. -/
theorem extractDir_eq (r : Request) (root : Path) :
    (r.layout root).extractDir = root.descend [parentName, r.versionName] := by
  have relative : (Path.ofString parentName).isAbsolute = false := by decide
  have below := @Path.join_child root _ _ relative (by decide) r.isStep_versionName
  simp only [layout, archiveRoot, Path.descend, List.foldl_cons, List.foldl_nil]
  exact below

/-- What a build has for itself is reached from its root by these names. -/
theorem artifacts_eq (r : Request) (root : Path) :
    (r.layout root).artifacts = r.artifactNames.map root.descend := by
  have sources := r.extractDir_eq root
  simp only [layout] at sources
  simp only [Layout.artifacts, layout, sources, artifactNames, Path.descend, List.map_cons,
    List.map_nil, List.cons_append, List.nil_append, List.foldl_cons, List.foldl_nil]

/-- All of these names are steps. -/
theorem isStep_of_mem_artifactNames {r : Request} {names : List String}
    (mem : names ∈ r.artifactNames) : ∀ name ∈ names, Path.IsStep name := by
  have parent : Path.IsStep parentName := ⟨by decide, by decide⟩
  have script : Path.IsStep "bootstrap.sh" := ⟨by decide, by decide⟩
  have tool : Path.IsStep "b2" := ⟨by decide, by decide⟩
  revert names
  simp [artifactNames, parent, script, tool, r.isStep_versionName, r.isStep_tarballName]

/-- The names of the places of a build are all different. -/
theorem pairwise_artifactNames (r : Request) :
    ([parentName] :: r.artifactNames).Pairwise (· ≠ ·) := by
  simp [artifactNames, r.tarballName_ne_parentName.symm]

/-- The names of the places of two versions differ, for they tell the version. -/
theorem artifactNames_ne {r r' : Request} (differ : r.version ≠ r'.version)
    {names names' : List String} (mem : names ∈ r.artifactNames)
    (mem' : names' ∈ r'.artifactNames) : names ≠ names' := by
  have name : r.versionName ≠ r'.versionName := mt versionName_inj.1 differ
  have tarball : r.tarballName ≠ r'.tarballName := mt tarballName_inj.1 differ
  revert names'
  revert names
  simp [artifactNames, name, tarball]

end Request

open Request

/-- **Versions share nothing.** Whatever the root is, the places of a build are all different, and
its sources are extracted to an entry of the directory to extract into. Builds of different versions
have different names for them, no place of one build is a place of the other, and neither has its
sources extracted to a place inside of that of the other. -/
theorem versions_share_nothing (root : Path) :
    (∀ r : Request,
      let layout := r.layout root
      (layout.parentDir :: layout.artifacts).Pairwise (fun p q => p.components ≠ q.components) ∧
      layout.extractDir.components
        = layout.parentDir.components ++ [.name (Text.encode r.versionName)]) ∧
    ∀ r r' : Request, r.version ≠ r'.version →
      let layout := r.layout root
      let layout' := r'.layout root
      r.versionName ≠ r'.versionName ∧ r.tarballName ≠ r'.tarballName ∧
      (∀ p ∈ layout.artifacts, ∀ q ∈ layout'.artifacts, p.components ≠ q.components) ∧
      ¬layout.extractDir.components <+: layout'.extractDir.components ∧
      ¬layout'.extractDir.components <+: layout.extractDir.components := by
  have parent : ∀ name ∈ [parentName], Path.IsStep name :=
    List.forall_mem_singleton.2 ⟨by decide, by decide⟩
  have sources (r : Request) : ∀ name ∈ [parentName, r.versionName], Path.IsStep name := by
    have mem : [parentName, r.versionName] ∈ r.artifactNames := by simp [artifactNames]
    exact isStep_of_mem_artifactNames mem
  refine ⟨fun r => ?_, fun r r' differ => ?_⟩
  · intro layout
    have names : ∀ names ∈ [parentName] :: r.artifactNames, ∀ name ∈ names, Path.IsStep name :=
      List.forall_mem_cons.2 ⟨parent, fun names => isStep_of_mem_artifactNames⟩
    -- all artifacts go down from the root, and differ in the names on their way
    have places : layout.parentDir :: layout.artifacts
        = ([parentName] :: r.artifactNames).map root.descend := by
      rw [List.map_cons, ← artifacts_eq, parentDir_eq]
    refine ⟨?_, ?_⟩
    · rw [places, List.pairwise_map]
      exact r.pairwise_artifactNames.imp_of_mem fun mem mem' =>
        Path.components_descend_ne (names _ mem) (names _ mem')
    · rw [extractDir_eq, parentDir_eq, Path.components_descend (sources r),
        Path.components_descend parent]
      simp
  · intro layout layout'
    have name : r.versionName ≠ r'.versionName := mt versionName_inj.1 differ
    refine ⟨name, mt tarballName_inj.1 differ, ?_, ?_, ?_⟩
    · rw [artifacts_eq, artifacts_eq, List.forall_mem_map]
      intro names mem
      rw [List.forall_mem_map]
      intro names' mem'
      exact Path.components_descend_ne (isStep_of_mem_artifactNames mem)
        (isStep_of_mem_artifactNames mem') (artifactNames_ne differ mem mem')
    · rw [extractDir_eq, extractDir_eq, Path.descend_prefix_iff (sources r) (sources r')]
      simp [name]
    · rw [extractDir_eq, extractDir_eq, Path.descend_prefix_iff (sources r') (sources r)]
      simp [name.symm]

/-- Versions whose numbers have the same digits in the same order, below a root that ends with a
slash. -/
theorem versions_share_nothing_sameDigits :
    let r : Request := ⟨1, 74, 0, "http://example/boost.tar.gz", .ofString "built"⟩
    let r' : Request := ⟨17, 4, 0, "http://example/boost.tar.gz", .ofString "built"⟩
    let root : Path := .ofString "/src/"
    r.version ≠ r'.version ∧ r.versionName ≠ r'.versionName ∧
      ∀ p ∈ (r.layout root).artifacts, ∀ q ∈ (r'.layout root).artifacts,
        p.components ≠ q.components := by
  intro r r' root
  have differ : r.version ≠ r'.version := by decide
  obtain ⟨names, -, places, -⟩ := (versions_share_nothing root).2 r r' differ
  exact ⟨differ, names, places⟩

end Orchestrator.Boost
