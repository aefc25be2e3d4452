import Orchestrator.Proofs.Child.Decoding
import Orchestrator.Proofs.Environment
import Orchestrator.Proofs.Text.Utf8

namespace Orchestrator

/-!
# Variables — what a context says and what a child finds

A context is a list of bindings, and so are the variables that a child is given. Both may have
several bindings of one name. A context is read from its end; the variables of a child are made by
putting in one binding after another.

* `Context.Built` — how contexts are made; `Context.var_push`, `Context.var_withToolchain` — what
  they say then.
* `Context.value?_extend` — what a child finds among the variables that it is given.
* `Child.environment_of_launch` — it is given these, whatever program it turns out to be.
* `Child.launch_shows_context` — a child finds what its context says, and else what it inherits.
* `Child.not_inheritsAlike` — which may be the first or the last of several values.
-/

open Environment (IsName Named)

namespace Context

/-- Contexts are made by binding variables, one at a time or as a toolchain does. -/
inductive Built : Context → Prop where
  | start (dir : Option Path) : Built ⟨dir, []⟩
  | push {ctx : Context} {name : String} (built : Built ctx) (isName : IsName (Text.encode name))
    (value : String) : Built (ctx.push name value)
  | withToolchain {ctx : Context} (built : Built ctx) (t : Toolchain) : Built (ctx.withToolchain t)

variable {ctx : Context} {name : String}

/-! ### What a context says -/

/-- What is bound last counts. -/
theorem var_push (ctx : Context) (name value other : String) :
    (ctx.push name value).var other = if name = other then some value else ctx.var other := by
  rw [var, push, List.reverse_concat, List.find?_cons]
  by_cases same : name = other
  · simp [same]
  · rw [if_neg same, beq_false_of_ne same]
    rfl

/-- A toolchain binds two variables, the compiler for C and the one for C++. -/
theorem withToolchain_eq (ctx : Context) (t : Toolchain) :
    ctx.withToolchain t
      = (ctx.push Toolchain.ccVariable t.cc).push Toolchain.cxxVariable t.cxx := by
  simp [withToolchain, push, Toolchain.bindings]

/-- A toolchain binds its two variables, and says nothing of any other. -/
theorem var_withToolchain (ctx : Context) (t : Toolchain) (other : String) :
    (ctx.withToolchain t).var other =
      if Toolchain.cxxVariable = other then some t.cxx
      else if Toolchain.ccVariable = other then some t.cc
      else ctx.var other := by
  rw [withToolchain_eq, var_push, var_push]

/-- The bindings of a context as those of an environment. -/
def bindings (ctx : Context) : List (Bytes × Bytes) :=
  ctx.env.map fun (name, value) => (Text.encode name, Text.encode value)

/-- A context that was built from names binds nothing else. -/
theorem Built.named (built : ctx.Built) : Named ctx.bindings := by
  have push {ctx : Context} (named : Named ctx.bindings) {name : String}
      (isName : IsName (Text.encode name)) (value : String) :
      Named (ctx.push name value).bindings := by
    rw [bindings, Context.push, List.map_append]
    exact List.forall_mem_append.2 ⟨named, List.forall_mem_singleton.2 isName⟩
  induction built with
  | start dir => exact List.forall_mem_nil _
  | push _ isName value ih => exact push ih isName value
  | withToolchain _ t ih =>
    rw [withToolchain_eq]
    exact push (push ih (by decide) t.cc) (by decide) t.cxx

/-- A context says of a variable what is bound to it last. -/
theorem getLast?_bound (ctx : Context) (name : String) :
    (Environment.bound ctx.bindings (Text.encode name)).getLast?
      = (ctx.var name).map Text.encode := by
  have mine : ctx.bindings.filter (·.1 = Text.encode name)
      = (ctx.env.filter (·.1 == name)).map
        fun (name, value) => (Text.encode name, Text.encode value) := by
    rw [bindings, List.filter_map]
    congr 2
    funext binding
    simp only [Function.comp_apply, Text.encode_inj, Bool.beq_eq_decide_eq]
  rw [Environment.bound, mine, var, ← List.head?_filter, List.filter_reverse, List.head?_reverse,
    List.getLast?_map, List.getLast?_map, Option.map_map, Option.map_map]
  rfl

/-! ### What a child is given -/

/-- What a child inherits under a name. Where its context binds nothing, the entries are handed on
as they are, and it finds the first value; else it finds the last one. -/
def inherits (ctx : Context) (inherited : Environment) (name : String) : Option Bytes :=
  let values := inherited.values (Text.encode name)
  if ctx.env = [] then values.head? else values.getLast?

/-- A child finds what is bound, and else what it inherits. -/
theorem value?_extend (built : ctx.Built) (isName : IsName (Text.encode name))
    (inherited : Environment) :
    (inherited.extend ctx.env).value? (Text.encode name)
      = ((ctx.var name).map Text.encode).or (ctx.inherits inherited name) := by
  rw [Environment.extend, inherits]
  by_cases none : ctx.env = []
  · have nothing : ctx.var name = .none := by
      rw [var, none]
      rfl
    rw [if_pos none, if_pos none, nothing, Environment.value?_eq isName]
    rfl
  · rw [if_neg none, if_neg none, ← getLast?_bound, ← Environment.value?_reread isName]
    exact Environment.value?_bindAll isName (Environment.named_reread inherited) built.named

/-- If no more than one entry is inherited for a name, a child inherits what its parent finds. -/
theorem inherits_eq (isName : IsName (Text.encode name)) {inherited : Environment}
    (single : (inherited.values (Text.encode name)).length ≤ 1) :
    ctx.inherits inherited name = inherited.value? (Text.encode name) := by
  rw [inherits, Environment.value?_eq isName]
  generalize inherited.values (Text.encode name) = values at single
  match values, single with
  | [], _ => simp
  | [value], _ => simp

end Context

namespace Child

variable {π : Type} {site : Site π} {start : Place} {inherited : Environment}
  {command : CommandLine} {ctx : Context} {program : π} {given given' : Invocation}

/-! ### What programs are given -/

namespace Site

/-- A program that reads a script is given what the script was given. -/
theorem environment_of_load {scripts : Nat} {path : Path} {file : File π}
    (found : site.load scripts path file given = .ok (program, given')) :
    given'.environment = given.environment := by
  fun_induction site.load scripts path file given with
  | case1 =>
    cases found
    rfl
  | case2 | case3 | case4 => cases found
  | case5 _ _ _ _ _ _ _ _ _ _ _ ih => exact ih found

/-- Executing a file changes nothing in the environment that is given. -/
theorem environment_of_execute {path : Path}
    (found : site.execute given path = .ok (program, given')) :
    given'.environment = given.environment := by
  unfold execute at found
  split at found
  · cases found
  · split at found
    · cases found
    · exact environment_of_load found

/-- A file that is read as a script is given the same environment. -/
theorem environment_of_executeOrRead {reading : Bool} {path : Path}
    (found : site.executeOrRead given reading path = .ok (program, given')) :
    given'.environment = given.environment := by
  unfold executeOrRead at found
  split at found
  · split at found
    · -- the shell is given what the file would have been given
      have same := environment_of_execute found
      exact same
    · cases found
  · exact environment_of_execute found

/-- Whichever directory a program is found in, it is given the same environment. -/
theorem environment_of_searchIn {reading denied : Bool} {last : Cause} {dirs : List Bytes}
    (found : site.searchIn given reading denied last dirs = .ok (program, given')) :
    given'.environment = given.environment := by
  fun_induction site.searchIn given reading denied last dirs with
  | case2 _ _ _ _ _ here =>
    cases found
    exact environment_of_executeOrRead here
  | case3 _ _ _ _ _ ih | case4 _ _ _ _ _ ih | case5 _ _ _ _ _ ih => exact ih found
  | case1 | case6 => cases found

/-- A search for a program changes nothing in the environment that is given. -/
theorem environment_of_search {reading : Bool} {dirs : List Bytes}
    (found : site.search given reading dirs = .ok (program, given')) :
    given'.environment = given.environment := by
  unfold search at found
  split at found
  · exact environment_of_execute found
  · split at found
    · cases found
    · exact environment_of_searchIn found

end Site

/-- Whatever program a command turns out to be, it is given the variables of its parent, and the
bindings of its context put in. -/
theorem environment_of_launch
    (launched : launch site start inherited command ctx = .ok (program, given)) :
    given.environment = inherited.extend ctx.env := by
  unfold launch at launched
  split at launched
  · cases launched
  · split at launched
    · cases launched
    · exact Site.environment_of_search launched

/-! ### What a child finds -/

/-- A caller's variables, of which two are read as the same name. -/
def twofold : Environment :=
  [(Text.encode "MCE_CI_LOG", Text.encode "a"), (Text.encode "MCE_CI_LOG=b", Text.encode "c")]

/-- What a child finds that is started in a context, with variables of which two have one name. -/
def foundIn (ctx : Context) (name : String) : Option (Option Bytes) :=
  (launch ⟨byPath.world.files, []⟩ .root twofold byPath.call.command ctx).toOption.map
    fun (_, given) => given.environment.value? (Text.encode name)

theorem exists_launch_of_foundIn {name : String} {found : Option Bytes}
    (finds : foundIn ctx name = some found) :
    ∃ program given, launch ⟨byPath.world.files, []⟩ .root twofold byPath.call.command ctx
        = .ok (program, given) ∧ given.environment.value? (Text.encode name) = found := by
  unfold foundIn at finds
  rcases launched : launch ⟨byPath.world.files, []⟩ .root twofold byPath.call.command ctx
    with cause | ⟨program, given⟩
  · rw [launched] at finds
    cases finds
  · rw [launched] at finds
    exact ⟨program, given, rfl, Option.some.inj finds⟩

/-- **A child finds what its context says.** Under every name, a child that is launched, as those of
a runner all are, finds what the context says, if it says anything. Else it finds what it inherits:
of several inherited values the first one if the context binds nothing, and the last one if it does;
and that is what its parent finds, if there are not several. Where a toolchain is bound, its two
variables are said to be what it has for them, whatever was bound before, and nothing else is said
of any other. -/
theorem launch_shows_context {ctx : Context} (built : ctx.Built) :
    (∀ {π : Type} (site : Site π) (start : Place) (inherited : Environment) (command : CommandLine)
      (program : π) (given : Invocation),
      launch site start inherited command ctx = .ok (program, given) →
      ∀ name : String, IsName (Text.encode name) →
        let values := inherited.values (Text.encode name)
        let found := given.environment.value? (Text.encode name)
        match ctx.var name with
        | some value => found = some (Text.encode value)
        | none =>
          found = (if ctx.env = [] then values.head? else values.getLast?) ∧
          (values.length ≤ 1 → found = inherited.value? (Text.encode name))) ∧
    ∀ t : Toolchain,
      (ctx.withToolchain t).Built ∧
      (ctx.withToolchain t).var Toolchain.ccVariable = some t.cc ∧
      (ctx.withToolchain t).var Toolchain.cxxVariable = some t.cxx ∧
      ∀ name, name ≠ Toolchain.ccVariable → name ≠ Toolchain.cxxVariable →
        (ctx.withToolchain t).var name = ctx.var name := by
  refine ⟨fun site start inherited command program given launched name isName => ?_, fun t => ?_⟩
  · intro values found
    -- the environment that is given is the inherited one under the bindings of the context
    have finds : found = ((ctx.var name).map Text.encode).or (ctx.inherits inherited name) := by
      rw [← Context.value?_extend built isName, ← environment_of_launch launched]
    cases told : ctx.var name with
    | some value =>
      rw [told] at finds
      exact finds
    | none =>
      rw [told] at finds
      exact ⟨finds, fun single => finds.trans (Context.inherits_eq isName single)⟩
  · refine ⟨built.withToolchain t, ?_, ?_, fun name notCc notCxx => ?_⟩
    · rw [Context.var_withToolchain, if_neg (by decide), if_pos rfl]
    · rw [Context.var_withToolchain, if_pos rfl]
    · rw [Context.var_withToolchain, if_neg notCxx.symm, if_neg notCc.symm]

/-- A compiler that was bound is replaced by that of a toolchain, another variable keeps its value,
and of two inherited values the last one is found. -/
theorem launch_shows_context_twofold :
    let ctx := ((Context.mk none []).push "CC" "old").push "A" "1"
    ctx.Built ∧
      ∃ program given, launch ⟨byPath.world.files, []⟩ .root twofold byPath.call.command
          (ctx.withToolchain .gcc) = .ok (program, given) ∧
        given.environment.value? (Text.encode "CC") = some (Text.encode "/usr/bin/gcc") ∧
        given.environment.value? (Text.encode "A") = some (Text.encode "1") ∧
        given.environment.value? (Text.encode "MCE_CI_LOG") = some (Text.encode "b=c") := by
  intro ctx
  have built : ctx.Built := ((Context.Built.start none).push (by decide) _).push (by decide) _
  obtain ⟨built', cc, -, others⟩ := (launch_shows_context built).2 .gcc
  obtain ⟨program, given, launched, -⟩ : ∃ program given,
      launch ⟨byPath.world.files, []⟩ .root twofold byPath.call.command (ctx.withToolchain .gcc)
        = .ok (program, given) ∧
      given.environment.value? (Text.encode "A") = some (Text.encode "1") :=
    exists_launch_of_foundIn (by decide +kernel)
  have finds := (launch_shows_context built').1 _ _ _ _ _ _ launched
  have compiler := finds Toolchain.ccVariable (by decide)
  have kept := finds "A" (by decide)
  have inherited := finds "MCE_CI_LOG" (by decide)
  rw [cc] at compiler
  rw [others "A" (by decide) (by decide)] at kept
  rw [others "MCE_CI_LOG" (by decide) (by decide)] at inherited
  exact ⟨built, program, given, launched, compiler, kept, inherited.1⟩

/-- A child would find one value for each name that its context is silent about: the one that a
certain way to read the inherited variables tells. -/
def InheritsAlike (reading : Environment → String → Option Bytes) : Prop :=
  ∀ {π : Type} (site : Site π) (start : Place) (inherited : Environment) (command : CommandLine)
    (ctx : Context) (program : π) (given : Invocation), ctx.Built →
    launch site start inherited command ctx = .ok (program, given) →
    ∀ name : String, IsName (Text.encode name) →
      given.environment.value? (Text.encode name) = match ctx.var name with
        | some value => some (Text.encode value)
        | none => reading inherited name

/-- **What a child inherits depends on what its context binds.** Two contexts that are silent about
a name may have two children find different values for it, with the same inherited variables: where
these have two values for the name, no way to read them tells what children find. -/
theorem not_inheritsAlike :
    let plain : Context := ⟨none, []⟩
    let bound := plain.withToolchain .gcc
    plain.var "MCE_CI_LOG" = none ∧ bound.var "MCE_CI_LOG" = none ∧
      twofold.value? (Text.encode "MCE_CI_LOG") = some (Text.encode "a") ∧
      foundIn plain "MCE_CI_LOG" = some (some (Text.encode "a")) ∧
      foundIn bound "MCE_CI_LOG" = some (some (Text.encode "b=c")) ∧
      ¬∃ reading, InheritsAlike reading := by
  intro plain bound
  have first : foundIn plain "MCE_CI_LOG" = some (some (Text.encode "a")) := by decide +kernel
  have last : foundIn bound "MCE_CI_LOG" = some (some (Text.encode "b=c")) := by decide +kernel
  refine ⟨by decide, by decide, by decide, first, last, ?_⟩
  rintro ⟨reading, alike⟩
  have told {ctx : Context} (built : ctx.Built) (silent : ctx.var "MCE_CI_LOG" = none)
      {found : Option Bytes} (finds : foundIn ctx "MCE_CI_LOG" = some found) :
      found = reading twofold "MCE_CI_LOG" := by
    obtain ⟨program, given, launched, rfl⟩ := exists_launch_of_foundIn finds
    have same := alike _ _ _ _ _ _ _ built launched "MCE_CI_LOG" (by decide)
    rwa [silent] at same
  have one := told (.start none) (by decide) first
  have two := told ((Context.Built.start none).withToolchain .gcc) (by decide) last
  exact absurd (one.trans two.symm) (by decide)

end Child

end Orchestrator
