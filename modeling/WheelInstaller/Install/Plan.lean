import WheelInstaller.Install.Error
import WheelInstaller.Wheel.Basic

/-! Where every entry of a wheel goes. The plan is made before anything is written: every recorded
path has to be acceptable, and no two entries may get in each other's way. -/

namespace WheelInstaller.Install

/-- The directories to make, in order, and the files with their destinations, in stored order. -/
structure Plan where
  directories : List Path := []
  files : List (Entry × Path) := []

namespace Plan

/-- The directories between a destination and the root of the plan, both excluded. -/
def directoriesAbove (root destination : Path) : List Path :=
  let stop := root.components
  destination.ancestors.tail.takeWhile fun directory => directory.components ≠ stop

/-- The directories that an entry needs below the root of the plan. -/
def directoriesFor (root : Path) (entry : Entry) (destination : Path) : List Path :=
  directoriesAbove root destination ++ if entry.isDirectory then [destination] else []

/-- Finds the destinations of entries, given those taken already and the entries they were taken
by. -/
def placeAll (archive root : Path) (taken : List (List Component × String)) :
    List Entry → Except InstallError (List (Entry × Path))
  | [] => .ok []
  | entry :: rest => do
    let placed ← (RecordedPath.place root entry.path).mapError .path
    let target := placed.destination.components
    match taken.find? fun (known, _) => known = target with
    -- Recorded paths that are spelled differently may still have one destination.
    | some (_, earlier) =>
      .error (.archive (.corrupt archive (.sameDestination earlier entry.path)))
    | none =>
      let others ← placeAll archive root ((target, entry.path) :: taken) rest
      return (entry, placed.destination) :: others

def ofPlaced (root : Path) (placed : List (Entry × Path)) : Plan where
  directories := Path.inOrder (placed.flatMap fun (entry, path) => directoriesFor root entry path)
  files := placed.filter fun (entry, _) => !entry.isDirectory

/-- A file must not be where a directory is needed. -/
def checkFiles (archive : Path) (plan : Plan) : Except InstallError Plan :=
  let needed := plan.directories.map Path.components
  match plan.files.find? fun (_, destination) => needed.contains destination.components with
  | some (entry, _) => .error (.archive (.corrupt archive (.fileAsDirectory entry.path)))
  | none => .ok plan

/-- The plan for the entries of an archive below a root. -/
def build (archive root : Path) (entries : List Entry) : Except InstallError Plan := do
  checkFiles archive (ofPlaced root (← placeAll archive root [] entries))

end Plan
end WheelInstaller.Install
