import WheelInstaller.Wheel.Reading

/-! What a wheel declares, told without installing it. -/

namespace WheelInstaller

open Host

/-- What is told about a wheel. -/
structure Report where
  name : String
  version : String
  requiresPython : Option String
  format : String
  /-- The tags of the file name, if it is a wheel file name. -/
  tags : Option String
  entryCount : Nat
  scripts : List ConsoleScript
deriving DecidableEq, Repr

/-- Why there is no report on a wheel. -/
inductive ReportError where
  | opening (error : ArchiveError)
  | metadata (path : Path) (cause : ReadError)
  | scripts (path : Path) (cause : ReadError)
deriving DecidableEq, Repr

/-- The message for a missing report and its causes, the outermost first. -/
def ReportError.chain : ReportError → List String
  | .opening error => [error.message]
  | .metadata path cause =>
    [s!"Failed to read metadata from {Text.quote path.text}", cause.message]
  | .scripts path cause =>
    [s!"Failed to read entry points from {Text.quote path.text}", cause.message]

namespace Report

def make (path : Path) : Attempt ReportError Report := do
  let wheel ← attemptAs .opening (Wheel.open path)
  let distribution ← attemptAs (.metadata path) wheel.readDistribution
  let scripts ← attemptAs (.scripts path) wheel.readScripts
  return {
    name := distribution.name
    version := distribution.version
    requiresPython := distribution.requiresPython
    format := wheel.format.render
    tags := (WheelName.ofPath? path).map WheelName.tags
    entryCount := wheel.entries.length
    scripts }

/-- A text that may be missing. -/
def optionalText : Option String → Json
  | some value => .text value
  | none => .null

def toJson (report : Report) : Json :=
  .record [("name", .text report.name), ("version", .text report.version),
    ("requires_python", optionalText report.requiresPython),
    ("wheel_format", .text report.format), ("tags", optionalText report.tags),
    ("entry_count", .number report.entryCount),
    ("entry_points", .list (report.scripts.map ConsoleScript.toJson))]

end Report
end WheelInstaller
