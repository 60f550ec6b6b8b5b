import WheelInstaller.FileSystem.Operation

/-! Paths to be removed if an installation fails. An installation notes what it is about to make,
and forgets it again once it has succeeded. -/

namespace WheelInstaller

/-- The noted paths, in the order in which they were noted. -/
structure Registry where
  paths : List Path := []
deriving DecidableEq, Repr

namespace Registry

/-- Notes a path, unless it is noted already. -/
def add (registry : Registry) (path : Path) : Registry :=
  if registry.paths.any (·.same path) then registry else ⟨registry.paths ++ [path]⟩

def remove (registry : Registry) (path : Path) : Registry :=
  ⟨registry.paths.filter fun known => !known.same path⟩

/-- A noted path whose maker tells when it may stay. -/
structure Guard where
  path : Path
deriving DecidableEq, Repr

/-- Notes a path, to stay noted until its guard is told of success. -/
def guarding (registry : Registry) (path : Path) : Guard × Registry :=
  (⟨path⟩, registry.add path)

/-- Lets a guarded path stay. -/
def Guard.succeed (guard : Guard) (registry : Registry) : Registry :=
  registry.remove guard.path

/-- Removes one path if something is there, and tells whether it was removed. -/
def removePath (files : FileSystem) (path : Path) : Bool × FileSystem :=
  if files.isDirectory path then
    let (outcome, files) := (FileSystem.removeDirectory path).run files
    (outcome.isOk, files)
  else if files.exists? path then
    let (outcome, files) := (FileSystem.removeFile path).run files
    (outcome.isOk, files)
  else (false, files)

/-- Removes paths in order, and tells how many were removed. -/
def removePaths : List Path → FileSystem → Nat × FileSystem
  | [], files => (0, files)
  | path :: rest, files =>
    let (removed, files) := removePath files path
    let (count, files) := removePaths rest files
    (if removed then count + 1 else count, files)

/-- Removes all noted paths, the latest first, and tells how many were removed. -/
def cleanUp (registry : Registry) (files : FileSystem) : Nat × FileSystem :=
  removePaths registry.paths.reverse files

end Registry
end WheelInstaller
