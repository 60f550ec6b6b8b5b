/-! How operations on a file system fail. -/

namespace WheelInstaller

/-- The cause that the system gives for a failed operation. -/
inductive OsError where
  | notPermitted
  | notFound
  | noProcess
  | noDevice
  | tooManyArguments
  | badDescriptor
  | accessDenied
  | busy
  | alreadyExists
  | notDirectory
  | isDirectory
  | invalidArgument
  | noSpace
  | illegalSeek
  | brokenPipe
  | nameTooLong
  | notEmpty
  | tooManyLinks
  /-- A path with a NUL character names nothing. -/
  | nulInPath
  /-- A program cannot be told of a NUL character. -/
  | nulInArgument
  /-- Only regular files can be copied. -/
  | notRegularFile
  /-- A program file that is neither a script nor anything else that can be run. -/
  | notExecutable
deriving DecidableEq, Repr

/-- The words for a cause. -/
def OsError.reason : OsError → String
  | .notPermitted => "Operation not permitted"
  | .notFound => "No such file or directory"
  | .noProcess => "No such process"
  | .noDevice => "No such device or address"
  | .tooManyArguments => "Argument list too long"
  | .badDescriptor => "Bad file descriptor"
  | .notExecutable => "Exec format error"
  | .accessDenied => "Permission denied"
  | .busy => "Device or resource busy"
  | .alreadyExists => "File exists"
  | .notDirectory => "Not a directory"
  | .isDirectory => "Is a directory"
  | .invalidArgument => "Invalid argument"
  | .noSpace => "No space left on device"
  | .illegalSeek => "Illegal seek"
  | .brokenPipe => "Broken pipe"
  | .nameTooLong => "File name too long"
  | .notEmpty => "Directory not empty"
  | .tooManyLinks => "Too many levels of symbolic links"
  | .nulInPath => "file name contained an unexpected NUL byte"
  | .nulInArgument => "nul byte found in provided data"
  | .notRegularFile =>
    "the source path is neither a regular file nor a symlink to a regular file"

/-- The number that the system gives to a cause, if it comes from there. -/
def OsError.number? : OsError → Option Nat
  | .notPermitted => some 1
  | .notFound => some 2
  | .noProcess => some 3
  | .noDevice => some 6
  | .tooManyArguments => some 7
  | .notExecutable => some 8
  | .badDescriptor => some 9
  | .accessDenied => some 13
  | .busy => some 16
  | .alreadyExists => some 17
  | .notDirectory => some 20
  | .isDirectory => some 21
  | .invalidArgument => some 22
  | .noSpace => some 28
  | .illegalSeek => some 29
  | .brokenPipe => some 32
  | .nameTooLong => some 36
  | .notEmpty => some 39
  | .tooManyLinks => some 40
  | .nulInPath | .nulInArgument | .notRegularFile => none

def OsError.message (error : OsError) : String :=
  match error.number? with
  | some number => s!"{error.reason} (os error {number})"
  | none => error.reason

end WheelInstaller
