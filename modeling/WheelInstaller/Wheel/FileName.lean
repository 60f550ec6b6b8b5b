import WheelInstaller.Path.Basic
import WheelInstaller.Text.Split

/-! Wheel file names, `name-version(-build)?-python-abi-platform.whl`, and the directory of
metadata that a wheel of that name is expected to carry. -/

namespace WheelInstaller

/-- The parts of a wheel file name. -/
structure WheelName where
  name : String
  version : String
  build : Option String
  python : String
  abi : String
  platform : String
deriving DecidableEq, Repr

/-- The characters that count as one separator, alone or in a run. -/
def isNameSeparator (c : Char) : Bool :=
  c = '-' || c = '_' || c = '.'

/-- The text after `previous` with every run of separators as one underscore. -/
def collapseFrom (previous : Bool) : List Char → List Char
  | [] => []
  | c :: rest =>
    if isNameSeparator c then
      if previous then collapseFrom true rest else '_' :: collapseFrom true rest
    else c :: collapseFrom false rest

/-- A distribution name as directories spell it: every run of separators is one underscore. -/
def normalizeName (name : String) : String :=
  String.ofList (collapseFrom false name.toList)

/-- Directory names that stand for the same distribution. -/
def sameDistInfo (first second : String) : Bool :=
  Text.sameIgnoringCase (normalizeName first).toList (normalizeName second).toList

namespace WheelName

/-- What every wheel file name ends in. -/
def suffix : List Char := ".whl".toList

/-- A build tag starts with a digit. -/
def isBuildTag (tag : List Char) : Bool :=
  tag.head?.any Char.isDigit

/-- The name made of these parts, if there is the right number of them. -/
def ofParts? : List (List Char) → Option WheelName
  | [name, version, python, abi, platform] =>
    some ⟨.ofList name, .ofList version, none, .ofList python, .ofList abi, .ofList platform⟩
  | [name, version, build, python, abi, platform] =>
    if isBuildTag build then
      some ⟨.ofList name, .ofList version, some (.ofList build), .ofList python, .ofList abi,
        .ofList platform⟩
    else none
  | _ => none

def parse? (fileName : String) : Option WheelName := do
  let stem ← Text.dropSuffix? suffix fileName.toList
  let parts := Text.splitOn '-' stem
  if parts.any List.isEmpty then none else ofParts? parts

def ofPath? (path : Path) : Option WheelName :=
  path.fileName?.bind parse?

def render (name : WheelName) : String :=
  let build := match name.build with
    | some tag => s!"-{tag}"
    | none => ""
  s!"{name.name}-{name.version}{build}-{name.python}-{name.abi}-{name.platform}.whl"

/-- The interpreter, binary interface and platform that the wheel is for. -/
def tags (name : WheelName) : String :=
  s!"{name.python}-{name.abi}-{name.platform}"

/-- The metadata directory of the wheel. -/
def distInfo (name : WheelName) : String :=
  s!"{normalizeName name.name}-{name.version}.dist-info"

end WheelName
end WheelInstaller

/-! Versions of the wheel format. Anything but a first major version is refused. -/

namespace WheelInstaller

/-- A known version of the format: `1` and this minor version. -/
structure WheelFormat where
  minor : Nat
deriving DecidableEq, Repr

namespace WheelFormat

/-- The number that decimal digits stand for. -/
def digitsValue (digits : List Char) : Nat :=
  digits.foldl (fun value digit => 10 * value + (digit.toNat - '0'.toNat)) 0

/-- A number of four bytes in decimal digits, which a plus sign may precede. -/
def readNumber? (text : List Char) : Option Nat :=
  let digits := match text with
    | '+' :: rest => rest
    | _ => text
  if !digits.isEmpty && digits.all Char.isDigit && digitsValue digits < 0x100000000 then
    some (digitsValue digits)
  else none

def parse? (version : String) : Option WheelFormat := do
  let (major, minor) ← Text.splitOnce '.' (Text.trim version.toList)
  let major ← readNumber? major
  let minor ← readNumber? minor
  if major = 1 then some ⟨minor⟩ else none

def render (format : WheelFormat) : String :=
  s!"1.{format.minor}"

end WheelFormat
end WheelInstaller
