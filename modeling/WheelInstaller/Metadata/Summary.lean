import WheelInstaller.Json
import WheelInstaller.Metadata.Error
import WheelInstaller.Text.Classes
import WheelInstaller.Text.Split

/-! Entry point declarations: `[group]` lines, each followed by `name = value` lines. Only the
console scripts are kept, but every group has to be well formed. -/

namespace WheelInstaller

/-- A console script: a name, and the object that runs when the name is called. -/
structure ConsoleScript where
  name : String
  moduleName : String
  object : String
deriving DecidableEq, Repr

namespace ConsoleScript

def groupName : List Char := "console_scripts".toList

/-- A letter or underscore, followed by letters, number characters and underscores. -/
def isIdentifier : List Char → Bool
  | [] => false
  | first :: rest =>
    (first = '_' || Text.isLetter first) && rest.all fun c => c = '_' || Text.isLetterOrNumber c

/-- Identifiers with dots between them. -/
def isDottedIdentifier (text : List Char) : Bool :=
  (Text.splitOn '.' text).all isIdentifier

/-- A value without the extras in brackets that may end it. -/
def dropExtras (value : List Char) : Except Flaw (List Char) :=
  match Text.splitOnce '[' value with
  | none => .ok value
  | some (before, _) =>
    if value.getLast? = some ']' then .ok (Text.trim before)
    else .error (.unterminatedExtras (String.ofList value))

/-- The module and object of a value `module:attribute [extras]`. -/
def readReference (value : List Char) : Except Flaw (List Char × List Char) := do
  let reference ← dropExtras value
  match Text.splitOnce ':' reference with
  | none => .error (.noAttribute (String.ofList value))
  | some (before, after) =>
    let moduleName := Text.trim before
    let object := Text.trim after
    if !isDottedIdentifier moduleName then
      .error (.invalidModule (String.ofList moduleName))
    else if !isDottedIdentifier object then
      .error (.invalidAttribute (String.ofList object))
    else .ok (moduleName, object)

/-- What the lines so far leave: the current group, the names declared in it since its header, and
the scripts found, the latest first. -/
structure Progress where
  group : Option (List Char) := none
  names : List (List Char) := []
  scripts : List ConsoleScript := []

/-- The group that a header line, without its opening bracket, names. -/
def readGroup (line header : List Char) : Except Flaw (List Char) :=
  match Text.dropSuffix? [']'] header with
  | none => .error (.unterminatedGroup (String.ofList line))
  | some name =>
    let name := Text.trim name
    if name.isEmpty then .error .emptyGroup else .ok name

/-- Adds a declaration in the current group. -/
def readDeclaration (progress : Progress) (group name value : List Char) :
    Except Flaw Progress := do
  if name.isEmpty then .error .emptyName
  else if progress.names.contains name then .error (.duplicateName (String.ofList name))
  else if group = groupName then
    let (moduleName, object) ← readReference value
    let script : ConsoleScript :=
      ⟨String.ofList name, String.ofList moduleName, String.ofList object⟩
    return { progress with names := name :: progress.names, scripts := script :: progress.scripts }
  else if value.isEmpty then .error (.noValue (String.ofList name))
  else return { progress with names := name :: progress.names }

/-- A trimmed line that says nothing. -/
def isSkipped (line : List Char) : Bool :=
  line.isEmpty || line.head? = some '#' || line.head? = some ';'

/-- Adds one trimmed line. -/
def readLine (progress : Progress) (line : List Char) : Except Flaw Progress :=
  if isSkipped line then .ok progress
  else
    match line with
    | '[' :: header => do
      let group ← readGroup line header
      -- Names have to differ after one header only, even if a later one names the same group.
      return { progress with group := some group, names := [] }
    | _ =>
      match progress.group with
      | none => .error .outsideGroup
      | some group =>
        match Text.splitOnce '=' line with
        | none => .error (.noEqualsSign (String.ofList line))
        | some (name, value) =>
          readDeclaration progress group (Text.trim name) (Text.trim value)

def readLines (number : Nat) (progress : Progress) :
    List (List Char) → Except LineFlaw (List ConsoleScript)
  | [] => .ok progress.scripts.reverse
  | line :: rest =>
    match readLine progress (Text.trim line) with
    | .error flaw => .error ⟨number, flaw⟩
    | .ok progress => readLines (number + 1) progress rest

/-- The console scripts that a text declares, in order. -/
def parseAll (text : String) : Except LineFlaw (List ConsoleScript) :=
  readLines 1 {} (Text.lines text.toList)

end ConsoleScript
end WheelInstaller

/-! The summary that is left beside an installed tree, for the tools that build on it. -/

namespace WheelInstaller

def ConsoleScript.toJson (script : ConsoleScript) : Json :=
  .record [("name", .text script.name), ("module", .text script.moduleName),
    ("attribute", .text script.object)]

/-- What an installation reports. -/
structure Summary where
  scripts : List ConsoleScript
  pythonVersion : String
deriving DecidableEq, Repr

namespace Summary

def fileName : String := "metadata.json"

/-- The summary as a document; the names and order of its fields are part of the format. -/
def toJson (summary : Summary) : Json :=
  .record [("entry_points", .list (summary.scripts.map ConsoleScript.toJson)),
    ("python_version", .text summary.pythonVersion)]

/-- The content of the summary file. -/
def render (summary : Summary) : String :=
  summary.toJson.render ++ "\n"

end Summary
end WheelInstaller
