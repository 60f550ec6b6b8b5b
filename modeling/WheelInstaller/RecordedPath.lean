import WheelInstaller.Path.Basic
import WheelInstaller.Text.Quoted

/-! Member names of an archive, which anyone may have written. A name is accepted only if it is
relative and never steps upwards; it then has one destination below a given root. Both slashes
separate segments, and segments that are empty or `.` are dropped. -/

namespace WheelInstaller

/-- Why a recorded path is refused. -/
inductive Refusal where
  | nulByte
  | absolute
  | drive
  | parentSegment
  | empty
  | unnamedStep
  | outside
deriving DecidableEq, Repr

def Refusal.reason : Refusal → String
  | .nulByte => "NUL byte in path"
  | .absolute => "absolute path"
  | .drive => "drive prefix"
  | .parentSegment => "parent directory segment"
  | .empty => "empty path"
  | .unnamedStep => "non-normal path component"
  | .outside => "resolves outside the installation root"

/-- A recorded path that was refused. -/
structure EscapeError where
  recorded : String
  refusal : Refusal
deriving DecidableEq, Repr

def EscapeError.message (error : EscapeError) : String :=
  s!"entry {Text.quote error.recorded} escapes the installation root: {error.refusal.reason}"

/-- A recorded path that was accepted, and where it goes. -/
structure PlacedPath where
  recorded : String
  relative : Path
  destination : Path
deriving DecidableEq, Repr

namespace RecordedPath

/-- The recorded path with one kind of slash. -/
def unify (recorded : List Char) : List Char :=
  recorded.map fun c => if c = '\\' then '/' else c

/-- The path starts with an ASCII letter and a colon. -/
def hasDrive : List Char → Bool
  | letter :: ':' :: _ => letter.isAlpha
  | _ => false

/-- All segments, the dropped ones included. -/
def segments (recorded : List Char) : List (List Char) :=
  Text.splitOn '/' (unify recorded)

/-- A segment that names something. -/
def isKept (segment : List Char) : Bool :=
  segment != [] && segment != ['.']

/-- The segments that name something, in order. -/
def keptSegments (recorded : List Char) : List (List Char) :=
  (segments recorded).filter isKept

/-- The kept segments of an acceptable path, or why it is refused. -/
def check (recorded : List Char) : Except Refusal (List (List Char)) :=
  if recorded.contains '\x00' then .error .nulByte
  else if (unify recorded).head? = some '/' then .error .absolute
  else if hasDrive (unify recorded) then .error .drive
  else if (segments recorded).contains ['.', '.'] then .error .parentSegment
  else if (keptSegments recorded).isEmpty then .error .empty
  else .ok (keptSegments recorded)

/-- Every step of a path names something. -/
def isPlain (path : Path) : Bool :=
  path.components.all fun component => component.name?.isSome

/-- Where a recorded path goes below `root`. What the kept segments make is checked once more as a
path. -/
def place (root : Path) (recorded : String) : Except EscapeError PlacedPath :=
  match check recorded.toList with
  | .error refusal => .error ⟨recorded, refusal⟩
  | .ok kept =>
    let relative : Path := ⟨String.ofList (Text.joinWith '/' kept)⟩
    let destination := root.join relative
    if !isPlain relative then .error ⟨recorded, .unnamedStep⟩
    else if destination.isStrictlyUnder root then .ok ⟨recorded, relative, destination⟩
    else .error ⟨recorded, .outside⟩

end RecordedPath
end WheelInstaller
