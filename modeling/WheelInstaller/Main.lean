import WheelInstaller.CommandLine.Run
import WheelInstaller.Host.Programs

/-! The program on a machine: its requests are carried out on the machine's own files. Of other
programs, only scripts are run, and those by the shell of this library. -/

namespace WheelInstaller.Machine

open Host

/-- The number that the system gives to a cause. -/
def errorNumber : IO.Error → Nat
  | .alreadyExists _ number _ | .otherError number _ | .resourceBusy number _
  | .resourceVanished number _ | .unsupportedOperation number _ | .hardwareFault number _
  | .unsatisfiedConstraints number _ | .illegalOperation number _ | .protocolError number _
  | .timeExpired number _ | .interrupted _ number _ | .noFileOrDirectory _ number _
  | .invalidArgument _ number _ | .permissionDenied _ number _ | .resourceExhausted _ number _
  | .inappropriateType _ number _ | .noSuchThing _ number _ => number.toNat
  | .unexpectedEof | .userError _ => 0

def cause? : Nat → Option OsError
  | 2 => some .notFound
  | 8 => some .notExecutable
  | 13 => some .accessDenied
  | 16 => some .busy
  | 17 => some .alreadyExists
  | 20 => some .notDirectory
  | 21 => some .isDirectory
  | 22 => some .invalidArgument
  | 36 => some .nameTooLong
  | 39 => some .notEmpty
  | 40 => some .tooManyLinks
  | _ => none

/-- The refusal of an operation, in the system's own words if its cause has no others. -/
def refusal (operation : Operation) (error : IO.Error) : HostError :=
  match cause? (errorNumber error) with
  | some cause => .refused operation cause
  | none => .told s!"{operation.failure}: {error}"

def act {α : Type} (operation : Operation) (action : IO α) : IO (Except HostError α) := do
  return (← action.toBaseIO).mapError (refusal operation)

def isThere (path : Path) : IO Bool := do
  match ← (IO.FS.realPath path.text).toBaseIO with
  | .ok _ => return true
  | .error _ => return false

def holdsDirectory (path : Path) : IO Bool := do
  match ← (IO.FS.realPath path.text).toBaseIO with
  | .ok found => found.isDir
  | .error _ => return false

/-- The names in a directory, in order. -/
def namesIn (path : Path) : IO (List String) := do
  let children ← (← IO.FS.realPath path.text).readDir
  return Ordered.ofList compare (children.toList.map (·.fileName))

/-- The content of a file. Nothing can be read from a directory. -/
def contentOf (path : Path) : IO (Except OsError ByteArray) := do
  if ← holdsDirectory path then return .ok .empty
  else
    match ← (IO.FS.readBinFile path.text).toBaseIO with
    | .ok content => return .ok content
    | .error error => return .error ((cause? (errorNumber error)).getD .accessDenied)

/-- Removes a file, a link itself, or a directory with everything in it. -/
partial def removeTree (path : Path) : IO Unit := do
  match ← (IO.FS.removeFile path.text).toBaseIO with
  | .ok () => return ()
  | .error _ =>
    for name in ← namesIn path do
      removeTree (path / name)
    IO.FS.removeDir path.text

/-- What one digit of a mode allows. -/
def rights (digit : Nat) : IO.AccessRight where
  read := digit / 4 % 2 = 1
  write := digit / 2 % 2 = 1
  execution := digit % 2 = 1

def modeRights (mode : Nat) : IO.FileRight where
  user := rights (mode / 0o100)
  group := rights (mode / 0o10)
  other := rights mode

/-- Copies the content of a file, and tells how many bytes there were. -/
def copyContent (source target : Path) : IO Nat := do
  let content ← IO.FS.readBinFile source.text
  IO.FS.writeBinFile target.text content
  return content.size

/-- Adds bytes to the end of a file. -/
def appendBytes (path : Path) (chunk : ByteArray) : IO Unit := do
  let handle ← IO.FS.Handle.mk path.text .append
  handle.write chunk

/-- A file system that holds one script and what leads to it. -/
def scriptAlone (path : Path) (content : ByteArray) : FileSystem :=
  let action : FileSystem.Action Unit := do
    FileSystem.makeDirectories (path.parent?.getD ⟨""⟩)
    FileSystem.writeFile path content
    FileSystem.setMode path 0o755
  (action.run freshFiles).2

def scriptOutput (program : String) (arguments : List String) : IO (Except HostError String) := do
  let files := match ← contentOf ⟨program⟩ with
    | .ok content => scriptAlone ⟨program⟩ content
    | .error _ => {}
  return (runProgram files program arguments).1.mapError .command

/-- Removes paths in order, and tells how many were removed. -/
def removeNoted : List Path → IO Nat
  | [] => return 0
  | path :: rest => do
    let there ← isThere path
    let removed ← (removeTree path).toBaseIO
    let count ← removeNoted rest
    return if there && removed.isOk then count + 1 else count

/-- What requests look at and change apart from files. -/
structure State where
  registry : IO.Ref Registry
  /-- The reading of the clock from which on nobody waits. -/
  deadline : Option Nat

def perform (state : State) : (request : Request) → IO request.Answer
  | .readFile path => contentOf path
  | .exists path => isThere path
  | .isDirectory path => holdsDirectory path
  | .readDirectory path =>
    act (.readDirectory path) do return (← namesIn path).map (path / ·)
  | .canonicalize path =>
    act (.canonicalize path) do return ⟨(← IO.FS.realPath path.text).toString⟩
  | .write path content => act (.write path) (IO.FS.writeBinFile path.text content)
  | .rename source target => act (.rename source target) (IO.FS.rename source.text target.text)
  | .copy source target => act (.copy source target) (copyContent source target)
  | .createDirectories path => act (.createDirectories path) (IO.FS.createDirAll path.text)
  | .removeFile path => act (.removeFile path) (IO.FS.removeFile path.text)
  | .removeDirectory path => act (.removeDirectory path) (removeTree path)
  | .createFile path =>
    act (.createFile path) do
      IO.FS.writeBinFile path.text .empty
      return ⟨path, []⟩
  | .append file chunk => act (.write file.path) (appendBytes file.path chunk)
  | .flush _ => return .ok ()
  | .setMode path mode => act (.setMode path) (IO.setAccessRights path.text (modeRights mode))
  | .commandOutput program arguments => scriptOutput program arguments
  | .isCancelled => do
    let now ← IO.monoMsNow
    return state.deadline.any (· ≤ now)
  | .register path => state.registry.modify (·.add path)
  | .release path => state.registry.modify (·.remove path)
  | .cleanUp => do
    let noted ← state.registry.get
    state.registry.set {}
    removeNoted noted.paths.reverse

def environment : IO CommandLine.Environment :=
  [CommandLine.jobsVariable, CommandLine.versionVariable].filterMapM fun name => do
    return (← IO.getEnv name).map fun value => (name, value)

/-- Carries out a command line, and tells the code to end with. -/
def execute (arguments : List String) : IO UInt32 := do
  let environment ← environment
  let start ← IO.monoMsNow
  let limit := CommandLine.timeLimit? environment arguments
  let registry ← IO.mkRef {}
  let state : State := ⟨registry, limit.map fun seconds => start + seconds * 1000⟩
  let outcome ← (CommandLine.program environment arguments).runWith (perform state)
  IO.print outcome.output
  IO.eprint outcome.complaints
  return outcome.code.toUInt32

end WheelInstaller.Machine

/-- Installs wheels, inspects them, and completes packages, as the arguments say. -/
def main (arguments : List String) : IO UInt32 :=
  WheelInstaller.Machine.execute arguments
