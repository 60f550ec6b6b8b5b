import WheelInstaller.CommandLine.Command
import WheelInstaller.Host.World
import WheelInstaller.Install.Run
import WheelInstaller.PythonVersion
import WheelInstaller.Report

/-! Carrying out commands: what is printed, and with which code the program ends. -/

namespace WheelInstaller.CommandLine

open Host

/-- What a command leaves. -/
structure Outcome where
  code : Nat
  output : String := ""
  complaints : String := ""
deriving DecidableEq, Repr

/-- The code of a command line that is not understood. -/
def usageCode : Nat := 2

/-- The name and version of the program. -/
def versionLine : String := "whlinst 0.1.0\n"

/-- A short account of the commands. -/
def helpText : String :=
  "Usage: whlinst <COMMAND>\n\nCommands:\n" ++
  "  install    Install a wheel into a directory\n" ++
  "  inspect    Print what a wheel declares, without installing it\n" ++
  "  normalize  Add initializers to implicit namespace packages in an existing tree\n"

/-- A text whose lines after the first are indented. -/
def indentLines (indent text : List Char) : List Char :=
  text.flatMap fun c => if c = '\n' then '\n' :: indent else [c]

/-- A cause that stands alone. -/
def writeCause (cause : String) : String :=
  let indent := "    ".toList
  String.ofList ('\n' :: indent ++ indentLines indent cause.toList)

/-- A cause among several, with its number. -/
def writeNumbered (cause : String) (number : Nat) : String :=
  let digits := Nat.toDigits 10 number
  let label := List.replicate (5 - digits.length) ' ' ++ digits ++ [':', ' ']
  String.ofList ('\n' :: label ++ indentLines "       ".toList cause.toList)

/-- The causes below a message. -/
def writeCauses : List String → String
  | [] => ""
  | [cause] => "\n\nCaused by:" ++ writeCause cause
  | causes =>
    "\n\nCaused by:" ++ String.join (causes.zipIdx.map fun (cause, number) =>
      writeNumbered cause number)

def failure : List String → Outcome
  | [] => { code := 1 }
  | message :: causes =>
    { code := 1, complaints := "Error: " ++ message ++ writeCauses causes ++ "\n" }

/-- The outcome of an attempt, which succeeds with an output or fails with a chain of messages. -/
def conclude {ε α : Type} (chain : ε → List String) (output : α → String) :
    Except ε α → Outcome
  | .ok value => { code := 0, output := output value }
  | .error error => failure (chain error)

/-- Why a command to install fails. -/
inductive CommandFailure where
  | version (error : PythonVersion.VersionError)
  | install (error : Install.InstallError)

/-- The message for a failure and its causes, the outermost first. -/
def CommandFailure.chain : CommandFailure → List String
  | .version error => error.chain
  | .install error => error.message :: error.causes

def InstallArguments.request (arguments : InstallArguments) (version : String) :
    Install.Request where
  archive := arguments.wheel
  directory := arguments.directory
  implicit := arguments.implicit
  overwrite := arguments.overwrite
  pythonVersion := version
  jobs := arguments.jobs

/-- Installs within the time that the arguments allow. -/
def InstallArguments.work (arguments : InstallArguments) (request : Install.Request) :
    Attempt Install.InstallError Summary :=
  match arguments.timeout with
  | some seconds => Install.runWithin (.ofSeconds seconds) request
  | none => Install.run request

def InstallArguments.run (arguments : InstallArguments) : Attempt CommandFailure Summary := do
  let version ←
    attemptAs .version (PythonVersion.resolve arguments.pythonVersion arguments.python)
  attempt do
    match ← arguments.work (arguments.request version) with
    | .ok summary => return .ok summary
    | .error error =>
      if arguments.cleanOnFailure then
        let _ ← cleanUp
        return .error (.install error)
      else return .error (.install error)

def writePaths (paths : List Path) : String :=
  String.join (paths.map fun path => path.text ++ "\n")

def Command.run : Command → Program Outcome
  | .install arguments => do
    return conclude CommandFailure.chain Summary.render (← arguments.run)
  | .inspect wheel => do
    return conclude ReportError.chain (fun report => report.toJson.render ++ "\n")
      (← Report.make wheel)
  | .normalize directory implicit => do
    return conclude HostError.chain writePaths (← Packages.normalize directory implicit)

/-- The outcome of a command line that is not carried out. -/
def Stop.outcome : Stop → Outcome
  | .usage => { code := usageCode, complaints := helpText }
  | .help => { code := 0, output := helpText }
  | .version => { code := 0, output := versionLine }

def program (environment : Environment) (arguments : List String) : Program Outcome :=
  match read environment arguments with
  | .error stop => return stop.outcome
  | .ok command => command.run

/-- How many seconds a command line leaves for its work, if it sets a limit. -/
def timeLimit? (environment : Environment) (arguments : List String) : Option Nat :=
  match read environment arguments with
  | .ok (.install given) => given.timeout
  | _ => none

/-- Carries out a command line on a host where no time passes: only a limit of zero is ever reached. -/
def execute (world : World) (environment : Environment) (arguments : List String) : Outcome × World :=
  (program environment arguments).run World.perform
    { world with cancelled := timeLimit? environment arguments = some 0 }

end WheelInstaller.CommandLine
