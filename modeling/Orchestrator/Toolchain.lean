namespace Orchestrator

/-!
# Toolchains

A toolchain is one row of the build matrix: a C and a C++ compiler that belong together. Commands
learn of it from two environment variables.

* `Toolchain.bindings` — the two variables.
* `Toolchain.matrix` — the toolchains that a project is built under, in order.
-/

/-- A pair of compilers and the short name they go by. -/
structure Toolchain where
  id : String
  cc : String
  cxx : String
  deriving DecidableEq, Repr, Inhabited

namespace Toolchain

/-- The variable that names the C compiler. -/
def ccVariable : String := "CC"

/-- The variable that names the C++ compiler. -/
def cxxVariable : String := "CXX"

/-- The variables that make a command use this toolchain. -/
def bindings (t : Toolchain) : List (String × String) :=
  [(ccVariable, t.cc), (cxxVariable, t.cxx)]

def gcc : Toolchain := ⟨"gcc", "/usr/bin/gcc", "/usr/bin/g++"⟩

def clang : Toolchain := ⟨"clang", "/usr/bin/clang", "/usr/bin/clang++"⟩

/-- The toolchains a project is built under: first gcc, then clang. -/
def matrix : List Toolchain := [gcc, clang]

end Toolchain

end Orchestrator
