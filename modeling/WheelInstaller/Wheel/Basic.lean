import WheelInstaller.Container.Index
import WheelInstaller.Metadata.HeaderBlock
import WheelInstaller.Ordered
import WheelInstaller.Wheel.EntryStream
import WheelInstaller.Wheel.FileName

/-! Wheels: containers with a directory of metadata that tells the version of the wheel format. -/

namespace WheelInstaller

/-- A member of a wheel. -/
structure Entry where
  /-- The position in the container. -/
  index : Nat
  path : String
  size : Nat
  isDirectory : Bool
  mode : Option Nat
deriving DecidableEq, Repr

/-- A wheel that was opened. -/
structure Wheel where
  path : Path
  entries : List Entry
  distInfo : String
  format : WheelFormat
deriving DecidableEq, Repr

namespace Wheel

/-- The file name of the wheel, or its whole path if it has none. -/
def fileName (wheel : Wheel) : String :=
  wheel.path.fileName?.getD wheel.path.text

def entry? (wheel : Wheel) (recorded : String) : Option Entry :=
  wheel.entries.find? (·.path = recorded)

def metadataMember (wheel : Wheel) (name : String) : String :=
  s!"{wheel.distInfo}/{name}"

/-- What every container starts with, an empty one included. -/
def hasSignature (file : ByteArray) : Bool :=
  Bytes.standsAt Container.localMark file 0 || Bytes.standsAt Container.endMark file 0

def openContainer (path : Path) (content : Except OsError ByteArray) :
    Except ArchiveError Container.Index :=
  match content with
  | .error cause => .error (.unreadable path (.system cause))
  | .ok file =>
    if file.size < 4 then .error (.unreadable path .tooShort)
    else if !hasSignature file then .error (.unreadable path .noSignature)
    else
      match Container.Index.ofFile file with
      | .error error => .error (.corrupt path (.directory error))
      | .ok index => .ok index

/-- Refuses a container in which a raw name occurs twice: the later record would hide the earlier
one. -/
def checkNames (path : Path) (index : Container.Index) : Except ArchiveError Unit :=
  match Container.walkNames index.file [] index.start with
  | .distinct => .ok ()
  | .repeated name => .error (.corrupt path (.duplicateEntry (Text.Utf8.decodeLenient name)))
  | .nameCutOff => .error (.corrupt path .nameCutOff)

/-- The entry of a record, whose local header has to be there. -/
def entryOfRecord (path : Path) (index : Container.Index) (record : Container.Record)
    (position : Nat) : Except ArchiveError Entry :=
  match Container.Index.contentStart index.file record with
  | .error error => .error (.corrupt path (.unreachableEntry position error))
  | .ok _ => .ok ⟨position, record.name, record.size, record.isDirectory, record.unixMode?⟩

/-- The entries of a container, in stored order. -/
def readEntries (path : Path) (index : Container.Index) : Except ArchiveError (List Entry) :=
  index.records.zipIdx.mapM fun (record, position) => entryOfRecord path index record position

/-- Finds the content of an entry in the archive, whose bytes may have changed since the index was
read. -/
def locateEntry (path : Path) (index : Container.Index) (file : ByteArray) (entry : Entry) :
    Except ArchiveError Container.Index.Located :=
  (index.locateAt file entry.index).mapError fun error => .corrupt path (.member entry.path error)

/-- The content of an entry that was found, to be read with room for `buffer` bytes each time. -/
def entryStream (path : Path) (entry : Entry) (found : Container.Index.Located) (buffer : Nat)
    (file : ByteArray) : EntryStream :=
  { archive := path
    entry := entry.path
    expected := entry.size
    source := found.source buffer file }

/-- The content of an entry, to be read with room for `buffer` bytes each time. -/
def openEntry (path : Path) (index : Container.Index) (entry : Entry) (buffer : Nat) :
    Except ArchiveError EntryStream :=
  (locateEntry path index index.file entry).map fun found =>
    entryStream path entry found buffer index.file

def readEntry (path : Path) (index : Container.Index) (entry : Entry) :
    Except ArchiveError String := do
  let stream ← openEntry path index entry EntryStream.textBuffer
  stream.readText

/-- The top-level directory of an entry, if that is a metadata directory. -/
def distInfoOf? (entry : Entry) : Option String := do
  let (top, rest) ← Text.splitOnce '/' entry.path.toList
  if ".dist-info".toList.isSuffixOf top && (!rest.isEmpty || entry.isDirectory) then
    some (String.ofList top)
  else none

/-- The metadata directories of a wheel, in order. -/
def distInfoCandidates (entries : List Entry) : List String :=
  Ordered.ofList compare (entries.filterMap distInfoOf?)

/-- The metadata directory of a wheel. Among several, the one that the file name asks for. -/
def findDistInfo (path : Path) (entries : List Entry) : Except ArchiveError String :=
  match distInfoCandidates entries with
  | [] => .error (.unsupported path .noDistInfo)
  | [only] => .ok only
  | candidates =>
    match WheelName.ofPath? path with
    | none => .error (.unsupported path .severalDistInfo)
    | some name =>
      match candidates.find? fun candidate => sameDistInfo candidate name.distInfo with
      | some found => .ok found
      | none => .error (.unsupported path (.noMatchingDistInfo name.distInfo))

def readFormat (path : Path) (member text : String) : Except ArchiveError WheelFormat :=
  match HeaderBlock.parse text with
  | .error found => .error (.unsupported path (.badHeaders (.malformed member found)))
  | .ok block =>
    match block.get? "Wheel-Version" with
    | none => .error (.unsupported path (.noVersion member))
    | some version =>
      match WheelFormat.parse? version with
      | none => .error (.unsupported path (.version version))
      | some format => .ok format

def ofContent (path : Path) (content : Except OsError ByteArray) : Except ArchiveError Wheel := do
  let index ← openContainer path content
  checkNames path index
  let entries ← readEntries path index
  let distInfo ← findDistInfo path entries
  let member := s!"{distInfo}/WHEEL"
  match entries.find? (·.path = member) with
  | none => .error (.unsupported path (.missingMember member))
  | some entry =>
    let text ← readEntry path index entry
    let format ← readFormat path member text
    return ⟨path, entries, distInfo, format⟩

end Wheel
end WheelInstaller
