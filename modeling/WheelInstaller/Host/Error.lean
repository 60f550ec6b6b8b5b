import WheelInstaller.FileSystem.Error
import WheelInstaller.Path.Basic
import WheelInstaller.Text.Quoted
import WheelInstaller.Text.Encoding

/-! How a host refuses what it is asked for. -/

namespace WheelInstaller.Host

/-- An operation on the file system, as far as messages tell it. -/
inductive Operation where
  | write (path : Path)
  | rename (source target : Path)
  | copy (source target : Path)
  | createDirectories (path : Path)
  | removeFile (path : Path)
  | removeDirectory (path : Path)
  | readDirectory (path : Path)
  | createFile (path : Path)
  | canonicalize (path : Path)
  | setMode (path : Path)
deriving DecidableEq, Repr

def Operation.failure : Operation → String
  | .write path => s!"Failed to write to {Text.quote path.text}"
  | .rename source target =>
    s!"Failed to rename {Text.quote source.text} to {Text.quote target.text}"
  | .copy source target => s!"Failed to copy {Text.quote source.text} to {Text.quote target.text}"
  | .createDirectories path => s!"Failed to create directory {Text.quote path.text}"
  | .removeFile path => s!"Failed to remove file {Text.quote path.text}"
  | .removeDirectory path => s!"Failed to remove directory {Text.quote path.text}"
  | .readDirectory path => s!"Failed to read directory {Text.quote path.text}"
  | .createFile path => s!"Failed to create file {Text.quote path.text}"
  | .canonicalize path => s!"Failed to canonicalize {Text.quote path.text}"
  | .setMode path => s!"Failed to set permissions on {Text.quote path.text}"

/-- How a program ended. -/
inductive ExitStatus where
  | code (value : Nat)
  | signal (number : Nat)
deriving DecidableEq, Repr

/-- The names of the signals, from one on. -/
def signalNames : List String :=
  ["SIGHUP", "SIGINT", "SIGQUIT", "SIGILL", "SIGTRAP", "SIGABRT", "SIGBUS", "SIGFPE", "SIGKILL",
   "SIGUSR1", "SIGSEGV", "SIGUSR2", "SIGPIPE", "SIGALRM", "SIGTERM", "SIGSTKFLT", "SIGCHLD",
   "SIGCONT", "SIGSTOP", "SIGTSTP", "SIGTTIN", "SIGTTOU", "SIGURG", "SIGXCPU", "SIGXFSZ",
   "SIGVTALRM", "SIGPROF", "SIGWINCH", "SIGIO", "SIGPWR", "SIGSYS"]

/-- The words for the end of a program. -/
def ExitStatus.words : ExitStatus → String
  | .code value => s!"exit status: {value}"
  | .signal number =>
    match signalNames[number - 1]? with
    | some name => s!"signal: {number} ({name})"
    | none => s!"signal: {number}"

/-- Why a program gave no output. -/
inductive CommandError where
  | notStarted (program : String) (cause : OsError)
  | failed (program : String) (status : ExitStatus) (complaint : String)
  | notText (program : String) (flaw : Text.Utf8.Flaw)
deriving DecidableEq, Repr

/-- The message for a failed program and its causes, the outermost first. -/
def CommandError.chain : CommandError → List String
  | .notStarted program cause => [s!"Failed to run {program}", cause.message]
  | .failed program status complaint => [s!"{program} exited with {status.words}: {complaint}"]
  | .notText program flaw => [s!"{program} printed non UTF-8 output", flaw.message]

/-- Why a request was not granted. -/
inductive HostError where
  | refused (operation : Operation) (cause : OsError)
  | command (error : CommandError)
  /-- The host was told to refuse in these words. -/
  | told (message : String)
deriving DecidableEq, Repr

/-- The message for a refusal and its causes, the outermost first. -/
def HostError.chain : HostError → List String
  | .refused operation cause => [operation.failure, cause.message]
  | .command error => error.chain
  | .told message => [message]

end WheelInstaller.Host
