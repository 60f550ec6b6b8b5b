import WheelInstaller.Metadata.Error
import WheelInstaller.Text.Split

/-! Header blocks, as mail messages have them: `Key: value` lines up to the first blank line. An
indented line continues the value before it. -/

namespace WheelInstaller

/-- The fields of a header block, in order. -/
structure HeaderBlock where
  fields : List (String × String)
deriving DecidableEq, Repr

namespace HeaderBlock

def isContinuation (line : List Char) : Bool :=
  line.head? = some ' ' || line.head? = some '\t'

def readField (line : List Char) : Except Flaw (List Char × List Char) :=
  match Text.splitOnce ':' line with
  | none => .error .noHeaderColon
  | some (key, value) =>
    let key := Text.trim key
    if key.isEmpty then .error .emptyHeaderName else .ok (key, Text.trim value)

/-- Adds a line to the fields before it, the latest first. -/
def addLine (latest : List (List Char × List Char)) (line : List Char) :
    Except Flaw (List (List Char × List Char)) :=
  if isContinuation line then
    match latest with
    | [] => .error .continuationFirst
    | (key, value) :: earlier => .ok ((key, value ++ '\n' :: Text.trim line) :: earlier)
  else (readField line).map (· :: latest)

/-- Reads lines from the given number on, after the fields before them, the latest first. -/
def readLines (number : Nat) (latest : List (List Char × List Char)) :
    List (List Char) → Except LineFlaw (List (List Char × List Char))
  | [] => .ok latest.reverse
  | line :: rest =>
    if (Text.trim line).isEmpty then .ok latest.reverse
    else
      match addLine latest line with
      | .error flaw => .error ⟨number, flaw⟩
      | .ok fields => readLines (number + 1) fields rest

/-- Reads the header block at the start of a text. -/
def parse (text : String) : Except LineFlaw HeaderBlock :=
  (readLines 1 [] (Text.lines text.toList)).map fun fields =>
    ⟨fields.map fun (key, value) => (String.ofList key, String.ofList value)⟩

/-- All values of a key, whose case does not matter. -/
def getAll (block : HeaderBlock) (key : String) : List String :=
  (block.fields.filter fun (name, _) => Text.sameIgnoringCase name.toList key.toList).map (·.2)

/-- The first value of a key. -/
def get? (block : HeaderBlock) (key : String) : Option String :=
  (block.getAll key).head?

end HeaderBlock
end WheelInstaller

/-! The distribution that a wheel was built from. -/

namespace WheelInstaller

/-- Name and version of a distribution, and the interpreters it asks for. -/
structure Distribution where
  name : String
  version : String
  requiresPython : Option String
deriving DecidableEq, Repr

namespace Distribution

/-- The value of a header that must be there and not be empty. -/
def required (block : HeaderBlock) (key : String) : Except LineFlaw String :=
  match block.get? key with
  -- What is missing is on no line, and line zero stands for that.
  | some value => if value.isEmpty then .error ⟨0, .missingHeader key⟩ else .ok value
  | none => .error ⟨0, .missingHeader key⟩

/-- Reads the distribution from a metadata file. -/
def parse (text : String) : Except LineFlaw Distribution := do
  let block ← HeaderBlock.parse text
  let name ← required block "Name"
  let version ← required block "Version"
  return ⟨name, version, block.get? "Requires-Python"⟩

end Distribution
end WheelInstaller
