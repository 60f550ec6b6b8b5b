import WheelInstaller.FileSystem.Lookup

/-! What can be done to a file system. An operation that fails halfway leaves what it did until
then. The caller may do everything that the tree itself allows, and new files get the usual
permissions. -/

namespace WheelInstaller.FileSystem

/-- An operation: it succeeds or fails, and either way leaves a file system. -/
abbrev Action := ExceptT OsError (StateM FileSystem)

def newFileMode : Nat := 0o644

/-- The part of a mode that is kept. -/
def permissions (mode : Nat) : Nat :=
  mode % 0o10000

/-- Carries out an inspection of the current file system. -/
def inspect {α : Type} (look : FileSystem → Except OsError α) : Action α := do
  match look (← get) with
  | .ok value => return value
  | .error error => throw error

/-- The content of a file. A directory can be opened, but nothing can be read from it. -/
def readFile (files : FileSystem) (path : Path) : Except OsError ByteArray := do
  match ← files.status true path with
  | (_, .file _ content) => return content
  | _ => return .empty

/-- The names in a directory, in order. -/
def readDirectory (files : FileSystem) (path : Path) : Except OsError (List String) := do
  match ← files.status true path with
  | (location, .directory) => return files.children location
  | _ => .error .notDirectory

/-- The absolute path without links that leads to the same place. It is found step by step, so only
this path must not be too long. -/
def canonicalize (files : FileSystem) (path : Path) : Except OsError Path := do
  path.checkGiven
  match ← files.walk true linkLimit (files.origin path) path.strictSteps with
  | (.vacant _ _, _) => .error .notFound
  | (.occupied location _, _) =>
    let found := absolutePath location
    found.check
    return found

/-- Makes a directory in a directory that is there. -/
def makeDirectory (path : Path) : Action Unit := do
  let spot ← inspect (·.spot path)
  match spot.last with
  | .name name =>
    let location := spot.directory ++ [name]
    match ← inspect (·.nodeIn spot.directory name) with
    | some _ => throw .alreadyExists
    | none => modify (·.put location .directory)
  | _ => throw .alreadyExists

/-- Makes a directory, and those that it needs, up to `count` levels above it. -/
def makeDirectoriesWithin : (count : Nat) → Path → Action Unit
  | 0, _ => return ()
  | count + 1, path => do
    match (← get) |> (makeDirectory path).run with
    | (.ok (), files) => set files
    | (.error .notFound, _) =>
      makeDirectoriesWithin count (path.parent?.getD ⟨""⟩)
      -- A path that ends in `..` is there as soon as what is above it was made.
      match (← get) |> (makeDirectory path).run with
      | (.ok (), files) => set files
      | (.error error, files) =>
        if error = .alreadyExists && files.isDirectory path then return () else throw error
    | (.error error, files) =>
      if error = .alreadyExists && files.isDirectory path then return () else throw error

/-- Makes a directory and all directories that it needs. There are not more of them than
components. -/
def makeDirectories (path : Path) : Action Unit :=
  makeDirectoriesWithin path.components.length path

/-- Opens the file at a spot for writing, makes it with a mode if it is not there, and empties it if
it is and that is wanted. A link is only told. A spot that is written like a directory holds no file,
whatever is there. -/
def openSpot (mode : Nat) (empties : Bool) (spot : Spot) : Action (Location ⊕ Path) := do
  match spot.last, spot.slash with
  | .name name, false =>
    let location := spot.directory ++ [name]
    match ← inspect (·.nodeIn spot.directory name) with
    | none =>
      modify (·.put location (.file mode .empty))
      return .inl location
    | some (.file kept _) =>
      if empties then modify (·.put location (.file kept .empty))
      return .inl location
    | some .directory => throw .isDirectory
    | some (.link target) => return .inr target
  | _, _ => throw .isDirectory

/-- Opens the file at a spot for writing. Every round follows one link. -/
def createFileAt (mode : Nat) (empties : Bool) : (rounds : Nat) → Spot → Action Location
  | 0, spot => do
    match ← openSpot mode empties spot with
    | .inl location => return location
    | .inr _ => throw .tooManyLinks
  | rounds + 1, spot => do
    match ← openSpot mode empties spot with
    | .inl location => return location
    | .inr target =>
      match spot.links with
      | 0 => throw .tooManyLinks
      | links + 1 =>
        createFileAt mode empties rounds (← inspect (·.spotFrom links spot.directory target))

/-- Opens a file for writing. A link at the end of the path is followed, also to a file that is not
there yet. -/
def openToWrite (mode : Nat) (empties : Bool) (path : Path) : Action Location := do
  createFileAt mode empties linkLimit (← inspect (·.spot path))

/-- Opens a file of the usual permissions for writing, and empties it. -/
def createFile (path : Path) : Action Location :=
  openToWrite newFileMode true path

/-- Adds bytes to the end of a file. -/
def append (location : Location) (bytes : ByteArray) : Action Unit := do
  let files ← get
  match files.get? location with
  | some (.file mode content) => set (files.put location (.file mode (content ++ bytes)))
  | _ => return ()

/-- Makes or replaces the content of a file. -/
def writeFile (path : Path) (content : ByteArray) : Action Unit := do
  append (← createFile path) content

/-- Changes the permissions of a file. Those of directories make no difference. -/
def setMode (path : Path) (mode : Nat) : Action Unit := do
  match ← inspect (·.status true path) with
  | (location, .file _ content) =>
    modify (·.put location (.file (permissions mode) content))
  | _ => return ()

/-- Copies content and permissions of a file, and tells how many bytes there were. The target is
emptied before the source is read, so a file copied onto itself loses its content. -/
def copyFile (source target : Path) : Action Nat := do
  match ← inspect (·.status true source) with
  | (origin, .file mode _) =>
    let location ← createFile target
    let files ← get
    match files.get? origin with
    | some (.file _ content) =>
      set (files.put location (.file mode content))
      return content.size
    | _ => return 0
  | _ => throw .notRegularFile

/-- Takes away a file or a link. -/
def removeFile (path : Path) : Action Unit := do
  let spot ← inspect (·.spot path)
  match spot.last with
  | .name name =>
    let location := spot.directory ++ [name]
    match ← inspect (·.nodeIn spot.directory name) with
    | none => throw .notFound
    | some .directory => throw .isDirectory
    | some _ => if spot.slash then throw .notDirectory else modify (·.erase location)
  | _ => throw .isDirectory

/-- Takes away an empty directory. -/
def removeEmptyDirectory (path : Path) : Action Unit := do
  let spot ← inspect (·.spot path)
  match spot.last with
  | .name name =>
    let location := spot.directory ++ [name]
    match ← inspect (·.nodeIn spot.directory name) with
    | none => throw .notFound
    | some .directory =>
      if ((← get).children location).isEmpty then modify (·.erase location) else throw .notEmpty
    | some _ => throw .notDirectory
  | .current => throw .invalidArgument
  | .parent => throw .notEmpty
  | .root => throw .busy

/-- Takes away a directory with everything in it. Of a link, only the link itself is taken away. A
path through the directory itself may no longer lead to it once it is empty; then it stays. -/
def removeDirectory (path : Path) : Action Unit := do
  match ← inspect (·.status false path) with
  | (_, .link _) => removeFile path
  | (location, .directory) =>
    modify (·.clear location)
    tryCatch (removeEmptyDirectory path) fun error =>
      if error = .notFound then return () else throw error
  | (_, .file _ _) => throw .notDirectory

/-- Whether a node may be moved to a place that is not above it. -/
def checkReplacement (files : FileSystem) (moved : Node) (target : Location) :
    Except OsError Unit :=
  match files.get? target with
  | none => .ok ()
  | some .directory =>
    if !moved.isDirectory then .error .isDirectory
    else if (files.children target).isEmpty then .ok ()
    else .error .notEmpty
  | some _ => if moved.isDirectory then .error .notDirectory else .ok ()

/-- Moves a file, a link itself, or a directory with everything in it. A file may replace another
file, and a directory an empty one. -/
def rename (source target : Path) : Action Unit := do
  inspect fun _ => source.checkText
  inspect fun _ => target.checkText
  let origin ← inspect (·.spot source)
  let spot ← inspect (·.spot target)
  match origin.last, spot.last with
  | .name oldName, .name newName =>
    let old := origin.directory ++ [oldName]
    let new := spot.directory ++ [newName]
    match ← inspect (·.nodeIn origin.directory oldName) with
    | none => throw .notFound
    | some node =>
      let _ ← inspect (·.nodeIn spot.directory newName)
      if !node.isDirectory && (origin.slash || spot.slash) then throw .notDirectory
      else if old.isPrefixOf new && old ≠ new then throw .invalidArgument
      else if old = new then return ()
      else if new.isPrefixOf old then throw .notEmpty
      else
        inspect (·.checkReplacement node new)
        modify fun files => (files.erase new).move old new
  | _, _ => throw .busy

def makeLink (path target : Path) : Action Unit := do
  inspect fun _ => target.check
  let spot ← inspect (·.spot path)
  match spot.last with
  | .name name =>
    let location := spot.directory ++ [name]
    match ← inspect (·.nodeIn spot.directory name) with
    | some _ => throw .alreadyExists
    | none => if spot.slash then throw .notFound else modify (·.put location (.link target))
  | _ => throw .alreadyExists

end WheelInstaller.FileSystem
