import Orchestrator.Path

namespace Orchestrator.Boost

/-!
# Boost — what is wanted and where it goes

* `Request` — a version of Boost, where its sources are, and the file that marks a finished build.
* `Request.layout` — the places that the build of a version uses below a root. All but the marker
  bear the version in their names.
-/

/-- A version of Boost, where its sources are, and the file that marks a finished build. -/
structure Request where
  major : UInt32
  minor : UInt32
  patch : UInt32
  url : String
  builtFile : Path
  deriving DecidableEq, Repr

/-- The places that the build of a version uses. -/
structure Layout where
  root : Path
  /-- Marks a finished build. -/
  marker : Path
  /-- The sources as they are downloaded. -/
  tarball : Path
  /-- The directory that sources are extracted into. -/
  parentDir : Path
  /-- The sources of this version. -/
  extractDir : Path
  /-- The script that makes the build tool. -/
  bootstrap : Path
  /-- The build tool. -/
  b2 : Path
  deriving DecidableEq, Repr

/-- The directory below the root that sources are extracted into. -/
def parentName : String := "boost"

namespace Request

/-- The version in the form that file names have. -/
def versionName (r : Request) : String :=
  "boost_" ++ toString r.major.toNat ++ "_" ++ toString r.minor.toNat
    ++ "_" ++ toString r.patch.toNat

/-- The name of the downloaded file. -/
def tarballName (r : Request) : String := r.versionName ++ ".tar.gz"

/-- The directory of the sources of this version, below the root. -/
def archiveRoot (r : Request) : Path := (Path.ofString parentName).child r.versionName

/-- The places that the build of this version uses below a root. -/
def layout (r : Request) (root : Path) : Layout :=
  let extractDir := root.join r.archiveRoot
  { root := root
    marker := root.join r.builtFile
    tarball := root.child r.tarballName
    parentDir := root.child parentName
    extractDir := extractDir
    bootstrap := extractDir.child "bootstrap.sh"
    b2 := extractDir.child "b2" }

/-- Two requests are the same when their markers are the same path and all else is equal. -/
def same (a b : Request) : Bool :=
  a.major == b.major && a.minor == b.minor && a.patch == b.patch && a.url == b.url
    && a.builtFile.same b.builtFile

end Request

/-- Two layouts are the same when all their paths are. -/
def Layout.same (a b : Layout) : Bool :=
  a.root.same b.root && a.marker.same b.marker && a.tarball.same b.tarball
    && a.parentDir.same b.parentDir && a.extractDir.same b.extractDir
    && a.bootstrap.same b.bootstrap && a.b2.same b.b2

end Orchestrator.Boost
