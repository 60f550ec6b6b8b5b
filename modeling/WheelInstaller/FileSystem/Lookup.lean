import WheelInstaller.FileSystem.Basic

/-! How paths lead to places. A path is walked step by step from the root or the home directory;
every step but the last has to reach a directory, and links on the way are followed. -/

namespace WheelInstaller

namespace Path

/-- The longest path that the system takes, counted in bytes. -/
def longest : Nat := 4095

/-- The longest name, counted in bytes. -/
def longestName : Nat := 255

/-- Paths that cannot be passed on at all. -/
def checkText (path : Path) : Except OsError Unit :=
  if path.text.toList.contains '\x00' then .error .nulInPath else .ok ()

/-- Paths that lead somewhere, if they are not too long. -/
def checkGiven (path : Path) : Except OsError Unit := do
  path.checkText
  if path.text.isEmpty then .error .notFound else .ok ()

/-- Paths that a system call takes. -/
def check (path : Path) : Except OsError Unit := do
  path.checkGiven
  if longest < path.text.utf8ByteSize then .error .nameTooLong else .ok ()

def hasTrailingSlash (path : Path) : Bool :=
  path.text.toList.getLast? = some '/'

/-- The steps between the slashes. -/
def steps (path : Path) : List String :=
  ((Text.splitOn '/' path.text.toList).filter (!·.isEmpty)).map String.ofList

/-- The steps of a path that has to be a directory if it ends in a slash. -/
def strictSteps (path : Path) : List String :=
  if path.hasTrailingSlash then path.steps ++ ["."] else path.steps

end Path

namespace FileSystem

/-- Where a walk ends. -/
inductive Place where
  | occupied (location : Location) (node : Node)
  | vacant (directory : Location) (name : String)

/-- What a directory holds under a name. -/
def nodeIn (files : FileSystem) (directory : Location) (name : String) :
    Except OsError (Option Node) :=
  if Path.longestName < name.utf8ByteSize then .error .nameTooLong
  else .ok (files.get? (directory ++ [name]))

/-- How many links are followed in one walk. -/
def linkLimit : Nat := 40

/-- A place that a walk passes: the tree there, and the names that led to it with the trees that they
were found in, the latest first. -/
structure Position where
  trail : List (String × Tree)
  tree : Tree

namespace Position

def location (position : Position) : Location :=
  (position.trail.map (·.1)).reverse

/-- One step up. Above the top there is only the top. -/
def up : Position → Position
  | ⟨[], tree⟩ => ⟨[], tree⟩
  | ⟨(_, above) :: trail, _⟩ => ⟨trail, above⟩

/-- One step down, to a tree under a name. -/
def down (position : Position) (name : String) (inner : Tree) : Position :=
  ⟨(name, position.tree) :: position.trail, inner⟩

end Position

def start (files : FileSystem) : Position :=
  ⟨[], files.top⟩

def position? (files : FileSystem) (location : Location) : Option Position :=
  location.foldlM (fun position name => (position.tree.child? name).map (position.down name))
    files.start

/-- Walks on from a position, up to the first link that is followed; from there it goes on as
`onward` says. A link at the very end is followed only if `follow` says so. -/
def walkUntil (files : FileSystem) (follow : Bool) (links : Nat)
    (onward : Position → List String → Except OsError (Place × Nat)) (here : Position) :
    (steps : List String) → Except OsError (Place × Nat)
  | [] => .ok (.occupied here.location here.tree.node, links)
  | step :: rest =>
    if !here.tree.node.isDirectory then .error .notDirectory
    else if step = "." then files.walkUntil follow links onward here rest
    else if step = ".." then files.walkUntil follow links onward here.up rest
    else if Path.longestName < step.utf8ByteSize then .error .nameTooLong
    else
      match here.tree.child? step with
      -- Only the last step may lead to nothing.
      | none =>
        if rest.isEmpty then .ok (.vacant here.location step, links) else .error .notFound
      | some (.link target) =>
        if rest.isEmpty && !follow then
          .ok (.occupied (here.location ++ [step]) (.link target), links)
        else
          -- The steps of the link take its place.
          onward (if target.isAbsolute then files.start else here) (target.strictSteps ++ rest)
      | some inner => files.walkUntil follow links onward (here.down step inner) rest

/-- Walks on from a position. `links` is the number of links that may still be followed; how many of
them are left is told with the end. -/
def walkFrom (files : FileSystem) (follow : Bool) :
    (links : Nat) → Position → List String → Except OsError (Place × Nat)
  | 0 => files.walkUntil follow 0 fun _ _ => .error .tooManyLinks
  | links + 1 => files.walkUntil follow (links + 1) (files.walkFrom follow links)

/-- Walks from a location, which has to be there. -/
def walk (files : FileSystem) (follow : Bool) (links : Nat) (here : Location)
    (steps : List String) : Except OsError (Place × Nat) :=
  match files.position? here with
  | none => .error .notFound
  | some position => files.walkFrom follow links position steps

def origin (files : FileSystem) (path : Path) : Location :=
  if path.isAbsolute then [] else files.home

def resolve (files : FileSystem) (follow : Bool) (path : Path) : Except OsError Place := do
  path.check
  let (place, _) ← files.walk follow linkLimit (files.origin path) path.strictSteps
  return place

/-- What a path leads to, which has to be there. -/
def status (files : FileSystem) (follow : Bool) (path : Path) :
    Except OsError (Location × Node) := do
  match ← files.resolve follow path with
  | .occupied location node => return (location, node)
  | .vacant _ _ => .error .notFound

/-- Something is at the end of a path. -/
def exists? (files : FileSystem) (path : Path) : Bool :=
  match files.status true path with
  | .ok _ => true
  | .error _ => false

def isDirectory (files : FileSystem) (path : Path) : Bool :=
  match files.status true path with
  | .ok (_, .directory) => true
  | _ => false

/-- The last step of a path, where an entry is made or taken away. -/
inductive LastStep where
  | name (value : String)
  | current
  | parent
  | root

/-- The directory that holds, or would hold, the end of a path, and the last step from there. -/
structure Spot where
  directory : Location
  last : LastStep
  slash : Bool
  /-- How many links may still be followed from here. -/
  links : Nat

def lastStep : Option String → LastStep
  | none => .root
  | some "." => .current
  | some ".." => .parent
  | some value => .name value

/-- The spot of a path that starts at a given place, unless it is absolute. All steps before the
last have to be walked, with at most `links` links on the way. -/
def spotFrom (files : FileSystem) (links : Nat) (start : Location) (path : Path) :
    Except OsError Spot := do
  path.check
  let start := if path.isAbsolute then [] else start
  match ← files.walk true links start path.steps.dropLast with
  | (.vacant _ _, _) => .error .notFound
  | (.occupied directory node, links) =>
    if !node.isDirectory then .error .notDirectory
    else
      return {
        directory, last := lastStep path.steps.getLast?, slash := path.hasTrailingSlash, links }

def spot (files : FileSystem) (path : Path) : Except OsError Spot :=
  files.spotFrom linkLimit files.home path

end FileSystem
end WheelInstaller
