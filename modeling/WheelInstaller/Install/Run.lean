import WheelInstaller.Install.Extraction
import WheelInstaller.Metadata.Summary
import WheelInstaller.Packages.Normalize
import WheelInstaller.Path.Basic
import WheelInstaller.Wheel.Error
import WheelInstaller.Wheel.Reading

/-! Installing a wheel. The archive is opened and planned before anything is touched; then the
target is prepared, and four steps follow: the files are extracted, a copy of the archive is kept,
packages get their initializers, and last of all the summary is written. Whoever finds a summary
therefore finds a complete installation. -/

namespace WheelInstaller.Install

/-- A wanted installation. -/
structure Request where
  archive : Path
  directory : Path
  /-- Implicit namespace packages are left alone. -/
  implicit : Bool := false
  /-- What the directory holds may be replaced. -/
  overwrite : Bool := false
  pythonVersion : String
  /-- How many workers extract files; zero leaves that open. -/
  jobs : Nat := 0
deriving DecidableEq, Repr

namespace Request

/-- Where the content of the archive goes. -/
def sitePackages (request : Request) : Path :=
  request.directory / "site-packages"

def summaryPath (request : Request) : Path :=
  request.directory / Summary.fileName

/-- Where the summary is written before it gets its name. -/
def summaryDraft (request : Request) : Path :=
  request.directory / s!"{Summary.fileName}.tmp"

/-- The name of the archive, which has to look like a wheel's: so it can collide neither with the
tree nor with the summary. -/
def archiveName (request : Request) : Except ArchiveError String :=
  match request.archive.fileName? with
  | none => .error (.unsupported request.archive .noFileName)
  | some name =>
    let isWheel := (Path.extensionOfName? name).any fun found =>
      Text.sameIgnoringCase found.toList "whl".toList
    if isWheel then .ok name else .error (.unsupported request.archive .otherExtension)

/-- Where the copy of the archive goes. -/
def retainedPath (request : Request) : Except ArchiveError Path :=
  request.archiveName.map (request.directory / ·)

end Request

open Host

def inStep {α : Type} (step : Step) (work : Attempt StepError α) : Attempt InstallError α :=
  attemptAs (.partialFailure step) work

/-- The failure to prepare the target. -/
def inTarget {α : Type} (request : Request) (work : Attempt StepError α) :
    Attempt InstallError α :=
  attemptAs (.target request.directory) work

/-- The archive's own canonical path, by which it is recognized. -/
def sourceIdentity (request : Request) : Program (Option Path) := do
  match ← canonicalize request.archive with
  | .ok path => return some path
  | .error _ => return none

/-- Whether a path leads to the archive. -/
def isSource (source : Option Path) (path : Path) : Program Bool := do
  match source with
  | none => return false
  | some source =>
    match ← canonicalize path with
    | .ok found => return found.same source
    | .error _ => return false

/-- The paths that do not lead to the archive. -/
def withoutSource (source : Option Path) : List Path → Program (List Path)
  | [] => return []
  | path :: rest => do
    let isArchive ← isSource source path
    let others ← withoutSource source rest
    return if isArchive then others else path :: others

/-- Removes paths of either kind. -/
def removeAll : List Path → Attempt StepError Unit
  | [] => return ()
  | path :: rest => do
    if ← isDirectory path then attemptAs .host (removeDirectory path)
    else attemptAs .host (removeFile path)
    removeAll rest

/-- Clears the target. The summary goes first, so that a half-cleared target does not look
complete. -/
def clearTarget (request : Request) (existing : List Path) : Attempt StepError Unit := do
  if existing.any (·.same request.summaryPath) then
    attemptAs .host (removeFile request.summaryPath)
  removeAll (existing.filter fun path => !path.same request.summaryPath)

/-- Makes sure that the target is a directory with nothing in it but, perhaps, the archive. Tells
the paths that were noted. -/
def prepareTarget (request : Request) : Attempt InstallError (List Path) := do
  let root := request.directory
  if !(← pathExists root) then
    inTarget request (attemptAs .host (createDirectories root))
    -- Only a target that was not there before may be taken away again.
    register root
    return [root]
  else if !(← isDirectory root) then
    throw (.target root (.targetNotDirectory root))
  else
    let source ← sourceIdentity request
    let children ← inTarget request (attemptAs .host (readDirectory root))
    let existing ← withoutSource source children
    if existing.isEmpty then return []
    else if !request.overwrite then throw (.targetExists root)
    else
      inTarget request (clearTarget request existing)
      return []

/-- Keeps a copy of the archive beside the tree, unless the archive is there already. Tells the
paths that were noted. -/
def retainArchive (request : Request) (destination : Path) : Attempt StepError (List Path) := do
  let source ← sourceIdentity request
  if ← isSource source destination then return []
  else
    -- It is noted first, since a copy that fails may leave a part of it.
    register destination
    let _ ← attemptAs (.retaining request.archive) (copy request.archive destination)
    return [destination]

/-- Writes the summary under another name, and then gives it its own. Tells the paths that were
noted. -/
def writeSummary (request : Request) (summary : Summary) : Attempt StepError (List Path) := do
  register request.summaryDraft
  attemptAs .host (write request.summaryDraft summary.render.toUTF8)
  attemptAs .host (rename request.summaryDraft request.summaryPath)
  register request.summaryPath
  return [request.summaryDraft, request.summaryPath]

/-- Forgets the paths that were noted. -/
def commit : List Path → Program Unit
  | [] => return ()
  | path :: rest => do
    release path
    commit rest

/-- What stops a step when metadata could not be read. -/
def StepError.ofRead : ReadError → StepError
  | .archive error => .archive error
  | .metadata error => .metadata error

/-- Installs a wheel, and tells the summary that was written. -/
def run (request : Request) : Attempt InstallError Summary := do
  let root := request.sitePackages
  let retained ← settled (request.retainedPath.mapError InstallError.archive)
  let wheel ← attemptAs .archive (Wheel.open request.archive)
  let plan ← settled (Plan.build request.archive root wheel.entries)
  -- Up to here nothing was changed.
  let prepared ← prepareTarget request
  inStep .extract checkCancelled
  register root
  let _ ← inStep .extract (extract wheel plan root request.jobs)
  inStep .provenance checkCancelled
  let kept ← inStep .provenance (retainArchive request retained)
  inStep .normalize checkCancelled
  let _ ← inStep .normalize (attemptAs .host (Packages.normalize root request.implicit))
  inStep .metadata checkCancelled
  let summary ←
    inStep .metadata (attemptAs .ofRead (wheel.readSummary request.pythonVersion))
  let written ← inStep .metadata (writeSummary request summary)
  -- What is not forgotten here is removed by the next clean-up.
  commit (prepared ++ [root] ++ kept ++ written)
  return summary

/-- Installs a wheel for a caller who waits for a limited time. Once that is over, the installation
stops at its next check, and whatever it came to is not told. -/
def runWithin (after : Duration) (request : Request) : Attempt InstallError Summary :=
  attempt do
    let outcome ← run request
    if ← isCancelled then return .error (.timeout after) else return outcome

end WheelInstaller.Install
