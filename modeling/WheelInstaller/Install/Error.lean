import WheelInstaller.Host.Error
import WheelInstaller.RecordedPath
import WheelInstaller.Wheel.Error

/-! Why an installation fails. Everything that goes wrong once the target may have been changed is
told together with the step it happened in. -/

namespace WheelInstaller.Install

open Host (HostError)

/-- The steps that change the target, in order. -/
inductive Step where
  | extract
  | provenance
  | normalize
  | metadata
deriving DecidableEq, Repr

def Step.name : Step → String
  | .extract => "extract"
  | .provenance => "provenance"
  | .normalize => "normalize"
  | .metadata => "metadata"

/-- What stops a step. -/
inductive StepError where
  | archive (error : ArchiveError)
  | metadata (error : MetadataError)
  | host (error : HostError)
  /-- The content of an extracted file could not be written. -/
  | writing (destination : Path) (error : HostError)
  /-- The archive could not be copied into the target. -/
  | retaining (archive : Path) (error : HostError)
  | targetNotDirectory (path : Path)
  | cancelled
deriving DecidableEq, Repr

/-- The message for a stopped step and its causes, the outermost first. -/
def StepError.chain : StepError → List String
  | .archive error => [error.message]
  | .metadata error => [error.message]
  | .host error => error.chain
  | .writing destination error => s!"Failed to write {Text.quote destination.text}" :: error.chain
  | .retaining source error => s!"Failed to retain {Text.quote source.text}" :: error.chain
  | .targetNotDirectory path => [s!"{Text.quote path.text} is not a directory"]
  | .cancelled => ["installation cancelled"]

def StepError.message (error : StepError) : String :=
  error.chain.headD ""

/-- A span of time in nanoseconds. -/
structure Duration where
  nanoseconds : Nat
deriving DecidableEq, Repr

namespace Duration

def ofSeconds (seconds : Nat) : Duration := ⟨seconds * 1000000000⟩

def ofMicroseconds (microseconds : Nat) : Duration := ⟨microseconds * 1000⟩

/-- A number of parts as so many decimal places after the point, without zeros at the end. -/
def fraction (places parts : Nat) : List Char :=
  let digits := Nat.toDigits 10 parts
  let padded := List.replicate (places - digits.length) '0' ++ digits
  (padded.reverse.dropWhile (· = '0')).reverse

/-- A span in a unit of `size` nanoseconds, which is a one with so many zeros as `places`. -/
def inUnit (duration : Duration) (size places : Nat) (unit : String) : String :=
  let whole := duration.nanoseconds / size
  let digits := fraction places (duration.nanoseconds % size)
  let point := if digits.isEmpty then "" else "."
  s!"{whole}{point}{String.ofList digits}{unit}"

/-- A span in the largest unit of which it holds at least one. -/
def render (duration : Duration) : String :=
  if 1000000000 ≤ duration.nanoseconds then duration.inUnit 1000000000 9 "s"
  else if 1000000 ≤ duration.nanoseconds then duration.inUnit 1000000 6 "ms"
  else if 1000 ≤ duration.nanoseconds then duration.inUnit 1000 3 "µs"
  else duration.inUnit 1 0 "ns"

end Duration

/-- Why an installation fails. -/
inductive InstallError where
  | archive (error : ArchiveError)
  | path (error : EscapeError)
  | targetExists (path : Path)
  | target (path : Path) (cause : StepError)
  | timeout (after : Duration)
  /-- The installation never ran to an end. -/
  | aborted
  | partialFailure (step : Step) (cause : StepError)
deriving DecidableEq, Repr

namespace InstallError

def message : InstallError → String
  | .archive error => error.message
  | .path error => error.message
  | .targetExists root => s!"installation target {root.text} exists and is not empty"
  | .target root cause => s!"cannot prepare installation target {root.text}: {cause.message}"
  | .timeout after => s!"installation did not finish within {after.render}"
  | .aborted => "installation task ended before finishing"
  | .partialFailure step cause =>
    s!"installation failed during the {step.name} step: {cause.message}"

/-- The causes of a failure, the outermost first. -/
def causes : InstallError → List String
  | .target _ cause | .partialFailure _ cause => cause.chain
  | _ => []

/-- The step that failed. -/
def step? : InstallError → Option Step
  | .partialFailure step _ => some step
  | _ => none

/-- The target may hold part of an installation. -/
def leftPartialTree : InstallError → Bool
  | .partialFailure _ _ | .timeout _ | .aborted => true
  | _ => false

end InstallError
end WheelInstaller.Install
