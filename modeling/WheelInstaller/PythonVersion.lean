import WheelInstaller.Host.Program

/-! The version of the interpreter that an installation is for: as given, or as the interpreter
itself tells it. -/

namespace WheelInstaller.PythonVersion

open Host

/-- Why no version is known. -/
inductive VersionError where
  | query (python : String) (cause : HostError)
  | unexpected (python answer : String)
  | notGiven
deriving DecidableEq, Repr

/-- The message for an unknown version and its causes, the outermost first. -/
def VersionError.chain : VersionError → List String
  | .query python cause => s!"Failed to query the version of {python}" :: cause.chain
  | .unexpected python answer =>
    [s!"{python} reported an unexpected version {Text.quote answer}"]
  | .notGiven => ["A Python version is required: pass --python-version or --python"]

def question : String := "import platform; print(platform.python_version())"

/-- The first two of the parts between dots start with a digit. -/
def looksLikeVersion (text : List Char) : Bool :=
  match Text.splitOn '.' text with
  | first :: second :: _ => first.head?.any Char.isDigit && second.head?.any Char.isDigit
  | _ => false

/-- The version in the output of an interpreter: its last line. -/
def ofOutput (output : String) : List Char :=
  Text.trim ((Text.lines output.toList).getLast?.getD [])

/-- Asks an interpreter for its version. -/
def probe (python : String) : Attempt VersionError String := do
  let output ← attemptAs (.query python) (commandOutput python ["-c", question])
  let version := ofOutput output
  if looksLikeVersion version then return String.ofList version
  else throw (.unexpected python (String.ofList version))

/-- The version that counts: the given one as it is, unless it is blank, or else what the
interpreter tells. -/
def resolve (given python : Option String) : Attempt VersionError String :=
  let stated := given.filter fun version => !(Text.trim version.toList).isEmpty
  match stated, python with
  | some version, _ => return version
  | none, some python => probe python
  | none, none => throw .notGiven

end WheelInstaller.PythonVersion
