import WheelInstaller.Path.Basic

/-! Arguments of a command line: options with and without values, and operands. -/

namespace WheelInstaller.CommandLine

/-- Why a command line is not carried out. -/
inductive Stop where
  /-- It is not understood. -/
  | usage
  /-- It asks for help. -/
  | help
  /-- It asks for the version of the program. -/
  | version
deriving DecidableEq, Repr

/-- What an option takes. -/
inductive Takes where
  | nothing
  | text
  /-- A path, which cannot be empty. -/
  | path
  /-- A number of eight bytes. -/
  | number
deriving DecidableEq, Repr

/-- An option of a command. -/
structure OptionRule where
  name : String
  letter : Option Char := none
  takes : Takes := .nothing
deriving DecidableEq, Repr

/-- What a command line says. -/
structure Given where
  /-- The options with their values; those that take none have an empty one. -/
  options : List (String × String) := []
  operands : List String := []
deriving DecidableEq, Repr

namespace Given

def value? (given : Given) (name : String) : Option String :=
  (given.options.find? (·.1 = name)).map (·.2)

def has (given : Given) (name : String) : Bool :=
  (given.value? name).isSome

end Given

/-- A decimal number of eight bytes, which a plus sign may precede. -/
def readNumber? (text : String) : Option Nat :=
  let digits := match text.toList with
    | '+' :: rest => rest
    | all => all
  let value := digits.foldl (fun value digit => 10 * value + (digit.toNat - 48)) 0
  if !digits.isEmpty && digits.all Char.isDigit && value < 0x10000000000000000 then some value
  else none

def Takes.accepts (takes : Takes) (value : String) : Bool :=
  match takes with
  | .nothing => false
  | .text => true
  | .path => !value.isEmpty
  | .number => (readNumber? value).isSome

/-- Adds an option. None may be given twice. -/
def addOption (given : Given) (rule : OptionRule) (value : String) : Except Stop Given :=
  if given.has rule.name then .error .usage
  else .ok { given with options := given.options ++ [(rule.name, value)] }

def addValue (given : Given) (rule : OptionRule) (value : String) : Except Stop Given :=
  if rule.takes.accepts value then addOption given rule value else .error .usage

/-- Adds the only operand, which is a path. -/
def addOperand (given : Given) (operand : String) : Except Stop Given :=
  if given.operands.isEmpty && !operand.isEmpty then .ok { given with operands := [operand] }
  else .error .usage

/-- An argument that can only be an option. -/
def looksLikeOption (argument : String) : Bool :=
  match argument.toList with
  | '-' :: _ :: _ => true
  | _ => false

/-- What an argument turns out to be. -/
inductive Reading where
  | operand
  /-- The rest are operands. -/
  | operandsFollow
  | flag (rule : OptionRule)
  /-- An option with the value that is part of the argument, or else follows. -/
  | valued (rule : OptionRule) (value : Option String)
  | stop (why : Stop)

/-- Reads an argument that starts with two dashes, without them. -/
def readLong (rules : List OptionRule) (text : List Char) : Reading :=
  let (name, value) := match Text.splitOnce '=' text with
    | some (name, value) => (String.ofList name, some (String.ofList value))
    | none => (String.ofList text, none)
  if name = "help" then .stop (if value.isNone then .help else .usage)
  else
    match rules.find? (·.name = name), value with
    | none, _ => .stop .usage
    | some rule, value =>
      if rule.takes = .nothing then
        if value.isNone then .flag rule else .stop .usage
      else .valued rule value

/-- Reads an argument that starts with one dash, without it. What follows the letter of an option
is its value, which an equals sign may precede. -/
def readShort (rules : List OptionRule) (letter : Char) (rest : List Char) : Reading :=
  if letter = 'h' then .stop .help
  else
    match rules.find? (·.letter = some letter) with
    | none => .stop .usage
    | some rule =>
      match rest with
      | [] => .valued rule none
      | '=' :: value => .valued rule (some (String.ofList value))
      | value => .valued rule (some (String.ofList value))

def readArgument (rules : List OptionRule) (argument : String) : Reading :=
  match argument.toList with
  | ['-', '-'] => .operandsFollow
  | '-' :: '-' :: text => readLong rules text
  | '-' :: letter :: rest => readShort rules letter rest
  | _ => .operand

/-- Reads arguments in order; `pending` is an option that still waits for its value. -/
def readArguments (rules : List OptionRule) (pending : Option OptionRule) (given : Given) :
    List String → Except Stop Given
  | [] => if pending.isSome then .error .usage else .ok given
  | argument :: rest =>
    match pending with
    | some rule =>
      if looksLikeOption argument then .error .usage
      else do readArguments rules none (← addValue given rule argument) rest
    | none =>
      match readArgument rules argument with
      | .stop why => .error why
      | .operandsFollow => rest.foldlM addOperand given
      | .operand => do readArguments rules none (← addOperand given argument) rest
      | .flag rule => do readArguments rules none (← addOption given rule "") rest
      | .valued rule none => readArguments rules (some rule) given rest
      | .valued rule (some value) => do
        readArguments rules none (← addValue given rule value) rest

end WheelInstaller.CommandLine

/-! The commands of the program. -/

namespace WheelInstaller.CommandLine

/-- The variables of the environment. -/
abbrev Environment := List (String × String)

/-- What the command to install is given. -/
structure InstallArguments where
  wheel : Path
  directory : Path
  implicit : Bool
  overwrite : Bool
  pythonVersion : Option String
  python : Option String
  jobs : Nat
  /-- How many seconds to wait. -/
  timeout : Option Nat
  /-- Whatever was made is removed if the installation fails. -/
  cleanOnFailure : Bool
deriving DecidableEq, Repr

/-- A command. -/
inductive Command where
  | install (arguments : InstallArguments)
  | inspect (wheel : Path)
  | normalize (directory : Path) (implicit : Bool)
deriving DecidableEq, Repr

/-- The option that leaves implicit namespace packages alone. -/
def implicitRule : OptionRule := { name := "enable-implicit-namespace-pkgs" }

def installRules : List OptionRule :=
  [{ name := "installation-dir", takes := .path }, implicitRule, { name := "overwrite" },
   { name := "python-version", takes := .text }, { name := "python", takes := .text },
   { name := "jobs", letter := some 'j', takes := .number },
   { name := "timeout", takes := .number }, { name := "clean-on-failure" }]

/-- The variable that tells the number of workers. -/
def jobsVariable : String := "WHLINST_JOBS"

/-- The variable that tells the version of the interpreter. -/
def versionVariable : String := "WHLINST_PYTHON_VERSION"

def Environment.value? (environment : Environment) (name : String) : Option String :=
  (environment.find? (·.1 = name)).map (·.2)

/-- The number of workers: as given, or from the environment, or left open. -/
def readJobs (environment : Environment) (given : Given) : Except Stop Nat :=
  match (given.value? "jobs").or (environment.value? jobsVariable) with
  | none => .ok 0
  | some text =>
    match readNumber? text with
    | some number => .ok number
    | none => .error .usage

def readInstall (environment : Environment) (given : Given) : Except Stop Command := do
  let jobs ← readJobs environment given
  match given.operands, given.value? "installation-dir" with
  | [wheel], some directory =>
    return .install {
      wheel := ⟨wheel⟩
      directory := ⟨directory⟩
      implicit := given.has implicitRule.name
      overwrite := given.has "overwrite"
      pythonVersion :=
        (given.value? "python-version").or (environment.value? versionVariable)
      python := given.value? "python"
      jobs
      timeout := (given.value? "timeout").bind readNumber?
      cleanOnFailure := given.has "clean-on-failure" }
  | _, _ => .error .usage

def commandNames : List String := ["install", "inspect", "normalize", "help"]

def readCommand (environment : Environment) (name : String) (arguments : List String) :
    Except Stop Command := do
  match name with
  | "install" => readInstall environment (← readArguments installRules none {} arguments)
  | "inspect" =>
    match (← readArguments [] none {} arguments).operands with
    | [wheel] => return .inspect ⟨wheel⟩
    | _ => .error .usage
  | "normalize" =>
    let given ← readArguments [implicitRule] none {} arguments
    match given.operands with
    | [directory] => return .normalize ⟨directory⟩ (given.has implicitRule.name)
    | _ => .error .usage
  | "help" =>
    match arguments with
    | [] => .error .help
    | [topic] => .error (if commandNames.contains topic then .help else .usage)
    | _ => .error .usage
  | _ => .error .usage

def read (environment : Environment) : List String → Except Stop Command
  | [] => .error .usage
  | first :: rest =>
    match first.toList with
    | '-' :: 'h' :: _ => .error .help
    | '-' :: 'V' :: _ => .error .version
    | _ =>
      if first = "--help" then .error .help
      else if first = "--version" then .error .version
      else readCommand environment first rest

end WheelInstaller.CommandLine
