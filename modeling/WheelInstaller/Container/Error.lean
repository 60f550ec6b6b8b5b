/-! Why a zip container, or a member of one, cannot be read. -/

namespace WheelInstaller.Container

/-- What a container may ask for that is not provided. -/
inductive Feature where
  | severalDisks
  | cipherFieldLength
  | fineTimesLength
  | fineTimesAttribute
  | fineTimesSize
  | method
  | password
deriving DecidableEq, Repr

def Feature.words : Feature → String
  | .severalDisks => "Support for multi-disk files is not implemented"
  | .cipherFieldLength => "AES extra data field has an unsupported length"
  | .fineTimesLength => "NTFS extra field has an unsupported length"
  | .fineTimesAttribute => "NTFS extra field has an unsupported attribute tag"
  | .fineTimesSize => "NTFS extra field has an unsupported attribute size"
  | .method => "Compression method not supported"
  | .password => "Password required to decrypt file"

/-- What is wrong with the structure of a container. -/
inductive Defect where
  | noEndRecord
  | noDirectory
  | recordCounts
  | directoryRecord
  | extraField
  | unicodeText
  | cipherField
  | cipherMissing
  | offsetOverflow
  | localHeader
deriving DecidableEq, Repr

def Defect.words : Defect → String
  | .noEndRecord => "Could not find the end of the central directory"
  | .noDirectory => "Could not find the central directory"
  | .recordCounts => "More records on this disk than in the whole archive"
  | .directoryRecord => "Invalid central directory record"
  | .extraField => "Invalid extra field"
  | .unicodeText => "Invalid Unicode text field"
  | .cipherField => "Invalid AES extra data field"
  | .cipherMissing => "AES encryption without AES extra data field"
  | .offsetOverflow => "Local header offset is too large"
  | .localHeader => "Invalid local file header"

/-- A failure of the container reader. -/
inductive Error where
  | invalid (defect : Defect)
  | unsupported (feature : Feature)
  /-- The bytes that a record announces are not there. -/
  | unexpectedEnd
  /-- A field with times is longer or shorter than its marks say. -/
  | timesLength
  /-- No file can be that long. -/
  | offsetOutOfReach
  | wrongPassword
  | noSuchMember
deriving DecidableEq, Repr

/-- The message for a failure, with the given words before the cause of a failed read. -/
def Error.messageWith (reading : String) (error : Error) : String :=
  match error with
  | .invalid defect => s!"invalid Zip archive: {defect.words}"
  | .unsupported feature => s!"unsupported Zip archive: {feature.words}"
  | .unexpectedEnd => s!"{reading}: failed to fill whole buffer"
  | .timesLength => s!"{reading}: length of a field with times does not match its marks"
  | .offsetOutOfReach => s!"{reading}: Invalid argument (os error 22)"
  | .wrongPassword => "provided password is incorrect"
  | .noSuchMember => "specified file not found in archive"

def Error.message (error : Error) : String :=
  error.messageWith "i/o error"

def Error.directoryMessage (error : Error) : String :=
  error.messageWith "failed to read central directory"

end WheelInstaller.Container
