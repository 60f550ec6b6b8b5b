import WheelInstaller.Host.Program
import WheelInstaller.Metadata.HeaderBlock
import WheelInstaller.Metadata.Summary
import WheelInstaller.Wheel.Basic

/-! Wheels read through a host. Each reading opens the archive anew, so it sees the file as it then
is. -/

namespace WheelInstaller

open Host

namespace Wheel

def «open» (path : Path) : Attempt ArchiveError Wheel :=
  attempt do return ofContent path (← readFile path)

/-- Opens the archive of a wheel once more. -/
def reopen (wheel : Wheel) : Program (Except ArchiveError Container.Index) := do
  return openContainer wheel.path (← readFile wheel.path)

/-- The text of a member, or nothing if there is no such member. -/
def readMember (wheel : Wheel) (recorded : String) : Attempt ArchiveError (Option String) :=
  match wheel.entry? recorded with
  | none => return none
  | some entry => do
    let index ← attempt wheel.reopen
    return some (← settled (readEntry wheel.path index entry))

end Wheel

/-- Why metadata could not be read from a wheel. -/
inductive ReadError where
  | archive (error : ArchiveError)
  | metadata (error : MetadataError)
deriving DecidableEq, Repr

def ReadError.message : ReadError → String
  | .archive error => error.message
  | .metadata error => error.message

namespace Wheel

def readMetadata (wheel : Wheel) (name : String) : Attempt ReadError (Option String) :=
  attemptAs .archive (wheel.readMember (wheel.metadataMember name))

/-- The distribution of a wheel. Its metadata has to be there. -/
def readDistribution (wheel : Wheel) : Attempt ReadError Distribution := do
  let member := wheel.metadataMember "METADATA"
  match ← wheel.readMetadata "METADATA" with
  | none => throw (.metadata (.missing member))
  | some text =>
    match Distribution.parse text with
    | .error found => throw (.metadata (.malformed member found))
    | .ok distribution => return distribution

/-- The console scripts of a wheel; it need not declare any. -/
def readScripts (wheel : Wheel) : Attempt ReadError (List ConsoleScript) := do
  match ← wheel.readMetadata "entry_points.txt" with
  | none => return []
  | some text =>
    match ConsoleScript.parseAll text with
    | .error found =>
      throw (.metadata (.malformed (wheel.metadataMember "entry_points.txt") found))
    | .ok scripts => return scripts

/-- The summary of a wheel, with the version as it is given. -/
def readSummary (wheel : Wheel) (pythonVersion : String) : Attempt ReadError Summary := do
  let _ ← wheel.readDistribution
  return ⟨← wheel.readScripts, pythonVersion⟩

end Wheel
end WheelInstaller
