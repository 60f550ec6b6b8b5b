import WheelInstaller.Process.Host
import WheelInstaller.Utility.Basic

/-! Running programs from programs. A program is found by its name where the environment says, and runs in
place of the one that asks for it or beside it. -/

namespace WheelInstaller.Utility

open Process

/-- Becomes the program at a path. A file that names no interpreter is run by the shell. -/
def attempt (path name : Raw) (arguments : List Raw) (environment : Environment) :
    Utility OsError := do
  let error : OsError ← ask (.execute ⟨Raw.toString path⟩ name arguments environment)
  if error = .notExecutable then
    let shell := "/bin/sh".toList
    ask (.execute ⟨Raw.toString shell⟩ shell (path :: arguments) environment)
  else return error

/-- Becomes the first program of several paths that can be run. Tells why there was none. -/
def attemptEach (name : Raw) (arguments : List Raw) (environment : Environment) :
    (denied : Bool) → List Raw → Utility OsError
  | denied, [] => return if denied then .accessDenied else .notFound
  | denied, path :: rest => do
    let error ← attempt path name arguments environment
    if error = .accessDenied then attemptEach name arguments environment true rest
    else if leadsNowhere error then attemptEach name arguments environment denied rest
    else return error

/-- Where programs are looked for when nothing is told about that. -/
def fallbackPath : Raw := "/bin:/usr/bin".toList

/-- Becomes the program of a name. Tells why that was not possible. -/
def become (name : Raw) (arguments : List Raw) (environment : Environment) : Utility OsError := do
  let places := (environment.find? (·.1 = "PATH".toList)).elim fallbackPath (·.2)
  if name.isEmpty then return .notFound
  else
    let paths := if name.contains '/' then [name] else candidates places name
    attemptEach name arguments environment false paths

/-- Does something in a process of its own, and tells the number of that process. -/
def fork (child : Utility Unit) : Utility Nat := fun state next =>
  .fork (child state fun _ state => .ended state.status) fun number => next number state

def waitFor (number : Nat) : (rounds : Nat) → Utility Host.ExitStatus
  | 0 => return .code 0
  | rounds + 1 => do
    match ← ask (.await (some number) true false) with
    | .ended _ status => return status
    | .nobody => return .code 127
    | _ => waitFor number rounds

inductive Launched where
  | ended (status : Host.ExitStatus)
  /-- There is no such program, or it cannot be run. -/
  | failed (isMissing : Bool)
deriving DecidableEq, Repr

/-- What a process that could not become a program leaves for the one that waits for it. -/
def missingMark : UInt8 := 1

structure Setting where
  /-- The input of the command is that of the program, and empty otherwise. -/
  sharesInput : Bool
  directory : Option Raw := none
  /-- How the name of a command is shown. -/
  shown : Raw → Raw := id

/-- Runs a command and waits for its end. What cannot be run is complained about. -/
def launch (setting : Setting) (command : List Raw) : Utility Launched := do
  flush
  let (source, target) ← ask .pipe
  let kept ← match ← ask (.duplicate target 10) with
    | .ok kept => pure kept
    | .error _ => pure target
  if kept ≠ target then close target
  let child : Utility Unit := do
    close source
    if !setting.sharesInput then
      match ← ask (.open ⟨"/dev/null"⟩ .read 0) with
      | .ok nothing =>
        let _ ← ask (.redirect nothing input)
        close nothing
      | .error _ => pure ()
    match setting.directory with
    | some directory =>
      let _ ← ask (.enter ⟨Raw.toString directory⟩)
    | none => pure ()
    let name := command.headD []
    let error ← become name command.tail (← state).environment
    complain (because (setting.shown name) error)
    let mark := if error = .notFound then missingMark else 0
    let _ ← ask (.write kept ⟨#[mark]⟩)
    exit 127
  let number ← fork child
  close kept
  let told ← ask (.read source 1 none)
  close source
  let status ← waitFor number forever
  match told with
  | .ok bytes => return if bytes.isEmpty then .ended status else .failed (bytes[0]? = some missingMark)
  | .error _ => return .ended status

end WheelInstaller.Utility
