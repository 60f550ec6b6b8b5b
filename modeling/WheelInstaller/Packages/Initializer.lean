import Std.Data.TreeMap
import WheelInstaller.Path.Basic

/-! What a directory tree holds, as far as packages are concerned: for every directory, the names
of the files and of the directories directly in it. From this it follows which directories lack an
initializer. A directory that holds modules, or packages of its own, but no initializer can only be
imported as an implicit namespace package; giving it an empty initializer makes it an ordinary
package. -/

namespace WheelInstaller

/-- The names directly in one directory, each kind in order. -/
structure Listing where
  files : List String := []
  directories : List String := []
deriving DecidableEq, Repr, Inhabited

namespace Listing

def addFile (listing : Listing) (name : String) : Listing :=
  { listing with files := Ordered.insert compare name listing.files }

def addDirectory (listing : Listing) (name : String) : Listing :=
  { listing with directories := Ordered.insert compare name listing.directories }

end Listing

/-- Listings of directories. Directories are given relative to the root of the tree, which itself
is the empty path, and are told apart by their components. -/
structure Snapshot where
  directories : Std.TreeMap (List Component) Listing Path.orderComponents := {}
deriving Inhabited

namespace Snapshot

def listing? (snapshot : Snapshot) (directory : Path) : Option Listing :=
  snapshot.directories[directory.components]?

/-- Changes the listing of a directory, which starts out empty. -/
def update (snapshot : Snapshot) (directory : Path) (change : Listing → Listing) : Snapshot where
  directories :=
    snapshot.directories.alter directory.components fun found => some (change (found.getD {}))

/-- Makes sure that a directory has a listing. -/
def touch (snapshot : Snapshot) (directory : Path) : Snapshot :=
  snapshot.update directory id

/-- Records a path below `directory`, given by its segments. All but the last are directories, and
the last is one too if `isDirectory` says so. -/
def record (isDirectory : Bool) : Path → List String → Snapshot → Snapshot
  | _, [], snapshot => snapshot
  | directory, segment :: rest, snapshot =>
    if rest.isEmpty && !isDirectory then snapshot.update directory (·.addFile segment)
    else
      let inner := directory / segment
      record isDirectory inner rest
        ((snapshot.update directory (·.addDirectory segment)).touch inner)

/-- Records a path as text: slashes separate segments, and one at the end marks a directory. -/
def recordText (snapshot : Snapshot) (path : String) : Snapshot :=
  let segments := (Text.splitOn '/' path.toList).filter (!·.isEmpty)
  record (path.toList.getLast? = some '/') ⟨""⟩ (segments.map String.ofList) snapshot

/-- The snapshot of a tree that holds exactly these paths and what they need. -/
def ofPaths (paths : List String) : Snapshot :=
  paths.foldl recordText (Snapshot.touch {} ⟨""⟩)

end Snapshot

namespace Packages

/-- The file that makes a directory a package. -/
def initializerName : String := "__init__.py"

/-- The extensions of files that can be imported. -/
def moduleExtensions : List String := ["py", "pyc", "so", "pyd"]

/-- Directories that never are packages, and are not looked into. -/
def isIgnored (name : String) : Bool :=
  name = "__pycache__" || ".dist-info".toList.isSuffixOf name.toList ||
    ".data".toList.isSuffixOf name.toList

/-- A file that can be imported. -/
def isModule (name : String) : Bool :=
  ((⟨name⟩ : Path).extension?).any moduleExtensions.contains

end Packages

namespace Snapshot

/-- What a visit to a directory finds. -/
structure Visit where
  /-- The directory is a package, once the missing initializers are there. -/
  isPackage : Bool
  /-- The directories, here and below, that lack an initializer. -/
  lacking : List Path

/-- What a directory's own listing and its visited children say about it. -/
def conclude (directory : Path) (listing : Listing) (children : List Visit) : Visit :=
  let below := children.flatMap (·.lacking)
  -- The root itself is no package, whatever is in it.
  let isRoot := directory.text.isEmpty
  if listing.files.contains Packages.initializerName then ⟨!isRoot, below⟩
  else if !isRoot && (listing.files.any Packages.isModule || children.any (·.isPackage)) then
    ⟨true, below ++ [directory]⟩
  else ⟨false, below⟩

/-- Visits a directory and everything below it that is not ignored. There is no answer if
directories with a listing are nested more than `depth` deep. -/
def visit (snapshot : Snapshot) : (depth : Nat) → Path → Option Visit
  | 0, directory =>
    match snapshot.listing? directory with
    | none => some ⟨false, []⟩
    | some _ => none
  | depth + 1, directory =>
    match snapshot.listing? directory with
    | none => some ⟨false, []⟩
    | some listing => do
      let inner := listing.directories.filter fun name => !Packages.isIgnored name
      let children ← inner.mapM fun name => visit snapshot depth (directory / name)
      return conclude directory listing children

/-- The initializers to create, by directory. Nesting cannot exceed the number of directories, so
no answer means that the directories contain one another in a circle. -/
def missingInitializers? (snapshot : Snapshot) : Option (List Path) := do
  let found ← snapshot.visit snapshot.directories.size ⟨""⟩
  return (Path.inOrder found.lacking).map (· / Packages.initializerName)

/-- The initializers to create, which are none where implicit namespace packages are welcome. -/
def plan? (snapshot : Snapshot) (implicit : Bool) : Option (List Path) :=
  if implicit then some [] else snapshot.missingInitializers?

end Snapshot
end WheelInstaller
