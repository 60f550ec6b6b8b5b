import WheelInstaller.Host.Program
import WheelInstaller.Install.Plan

/-! Extraction: the planned directories are made, and every planned file is written and gets its
permissions. The files are shared out, and each share opens the archive anew. Within a share the
directory of the archive is read once, but content is read when it is needed: a file that is written
over the archive itself spoils what follows. -/

namespace WheelInstaller.Install

open Host

/-- The permissions of a file whose entry tells none. -/
def defaultMode : Nat := 0o444

def fileMode (entry : Entry) : Nat :=
  match entry.mode with
  | some mode => mode % 0o1000
  | none => defaultMode

def makeDirectories : List Path → Attempt StepError Unit
  | [] => return ()
  | directory :: rest => do
    attemptAs .host (createDirectories directory)
    makeDirectories rest

def writeChunks (destination : Path) (file : OpenFile) : List ByteArray → Attempt StepError Unit
  | [] => return ()
  | chunk :: rest => do
    attemptAs (.writing destination) (append file chunk)
    writeChunks destination file rest

/-- Copies the content of an entry into an opened file, and tells how many bytes that were. -/
def copyContent (stream : EntryStream) (destination : Path) (file : OpenFile) :
    Attempt StepError Nat := do
  let drained := stream.drain
  -- What could be read of a broken entry is written all the same.
  writeChunks destination file drained.chunks
  settled (drained.outcome.mapError StepError.archive)
  attemptAs (.writing destination) (flush file)
  return drained.chunks.foldl (fun total chunk => total + chunk.size) 0

/-- Stops if the caller has stopped waiting. -/
def checkCancelled : Attempt StepError Unit := do
  if ← isCancelled then throw .cancelled else return ()

/-- The bytes of an opened archive as they now are. -/
def currentContent (archive : Path) (index : Container.Index) : Program ByteArray := do
  match ← readFile archive with
  | .ok content => return content
  -- It is open, and so can be read even if nothing is at its path any more.
  | .error _ => return index.file

/-- Extracts one file. Its content is looked for before the file is made, and read afterwards. -/
def extractFile (archive : Path) (index : Except ArchiveError Container.Index) (entry : Entry)
    (destination : Path) : Attempt StepError Nat := do
  checkCancelled
  let index ← settled (index.mapError StepError.archive)
  let content ← currentContent archive index
  let found ← settled
    ((Wheel.locateEntry archive index content entry).mapError StepError.archive)
  let file ← attemptAs .host (createFile destination)
  -- The archive itself may have been at the destination, and is empty then.
  let content ← currentContent archive index
  let stream := Wheel.entryStream archive entry found EntryStream.copyBuffer content
  let size ← copyContent stream destination file
  attemptAs .host (setMode destination (fileMode entry))
  return size

/-- Extracts files in order, and tells how many bytes they have together. -/
def extractFiles (archive : Path) (index : Except ArchiveError Container.Index) :
    List (Entry × Path) → Attempt StepError Nat
  | [] => return 0
  | (entry, destination) :: rest => do
    let size ← extractFile archive index entry destination
    return size + (← extractFiles archive index rest)

/-- Shares files out: they are halved as often as the workers are. -/
def shareOut (workers : Nat) (files : List (Entry × Path)) : List (List (Entry × Path)) :=
  if _ : workers = 0 then [files]
  else if files.length < 2 then [files]
  else
    let half := files.length / 2
    shareOut (workers / 2) (files.take half) ++ shareOut (workers / 2) (files.drop half)
termination_by workers
decreasing_by all_goals omega

/-- Extracts shares in order, and tells how many bytes they have together. -/
def extractShares (archive : Path) : List (List (Entry × Path)) → Attempt StepError Nat
  | [] => return 0
  | share :: rest => do
    let content ← readFile archive
    let size ← extractFiles archive (Wheel.openContainer archive content) share
    return size + (← extractShares archive rest)

/-- Carries out a plan below `root`. -/
def extract (wheel : Wheel) (plan : Plan) (root : Path) (jobs : Nat) : Attempt StepError Nat := do
  attemptAs .host (createDirectories root)
  makeDirectories plan.directories
  extractShares wheel.path (shareOut (max jobs 1) plan.files)

end WheelInstaller.Install
