import WheelInstaller.Container.Error
import WheelInstaller.FileSystem.Error
import WheelInstaller.Metadata.Error
import WheelInstaller.Path.Basic

/-! Why a wheel cannot be opened or read. -/

namespace WheelInstaller

/-- Why a file does not even look like a container. -/
inductive Unreadable where
  | system (cause : OsError)
  | tooShort
  | noSignature
deriving DecidableEq, Repr

def Unreadable.reason : Unreadable → String
  | .system cause => cause.message
  | .tooShort => "file is too short to be a zip container"
  | .noSignature => "missing zip signature"

/-- What is broken in a container. -/
inductive Corruption where
  | directory (error : Container.Error)
  | nameCutOff
  | duplicateEntry (name : String)
  | unreachableEntry (index : Nat) (error : Container.Error)
  | member (entry : String) (error : Container.Error)
  | content (entry reason : String)
  | oversizedText (entry : String) (size limit : Nat)
  | notText (entry : String)
  | sameDestination (first second : String)
  | fileAsDirectory (entry : String)
deriving DecidableEq, Repr

/-- The words for a broken container. -/
def Corruption.reason : Corruption → String
  | .directory error => error.directoryMessage
  | .nameCutOff => "failed to read central directory: failed to fill whole buffer"
  | .duplicateEntry name => s!"duplicate entry {Text.quote name}"
  | .unreachableEntry index error => s!"failed to read entry {index}: {error.message}"
  | .member entry error => s!"{entry}: {error.message}"
  | .content entry reason => s!"{entry}: {reason}"
  | .oversizedText entry size limit =>
    s!"{entry} holds {size} bytes, more than the {limit} allowed for a text member"
  | .notText entry => s!"{entry} is not valid UTF-8"
  | .sameDestination first second =>
    s!"entries {Text.quote first} and {Text.quote second} map to the same destination"
  | .fileAsDirectory entry =>
    s!"entry {Text.quote entry} is a file but other entries need it as a directory"

/-- Why a container is no wheel that can be installed. -/
inductive Unsupported where
  | noFileName
  | otherExtension
  | noDistInfo
  | severalDistInfo
  | noMatchingDistInfo (expected : String)
  | missingMember (member : String)
  | badHeaders (error : MetadataError)
  | noVersion (member : String)
  | version (value : String)
deriving DecidableEq, Repr

def Unsupported.reason : Unsupported → String
  | .noFileName => "path has no file name"
  | .otherExtension => "file name does not end in .whl"
  | .noDistInfo => "no .dist-info directory"
  | .severalDistInfo => "multiple .dist-info directories"
  | .noMatchingDistInfo expected =>
    s!"multiple .dist-info directories and none is {expected}"
  | .missingMember member => s!"missing {member}"
  | .badHeaders error => error.message
  | .noVersion member => s!"{member} has no Wheel-Version"
  | .version value => s!"Wheel-Version {value} is not supported"

/-- Why a wheel cannot be opened or read. -/
inductive ArchiveError where
  | unreadable (path : Path) (cause : Unreadable)
  | corrupt (path : Path) (cause : Corruption)
  | truncated (entry : String) (expected actual : Nat)
  | unsupported (path : Path) (cause : Unsupported)
deriving DecidableEq, Repr

def ArchiveError.message : ArchiveError → String
  | .unreadable path cause => s!"cannot read archive {path.text}: {cause.reason}"
  | .corrupt path cause => s!"archive {path.text} is corrupt: {cause.reason}"
  | .truncated entry expected actual =>
    s!"entry {entry} is truncated: expected {expected} bytes, got {actual}"
  | .unsupported path cause => s!"unsupported wheel {path.text}: {cause.reason}"

end WheelInstaller
