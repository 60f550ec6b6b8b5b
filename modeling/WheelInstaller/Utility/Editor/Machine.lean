import WheelInstaller.Utility.Editor.Script
import WheelInstaller.Utility.Lines
import WheelInstaller.Utility.Naming

/-! What editing remembers between steps, and where lines come from and go to. -/

namespace WheelInstaller.Utility.Editor

open Process

structure Settings where
  /-- Lines are printed only when a step says so. -/
  isQuiet : Bool := false
  /-- Every file has lines of its own. -/
  separate : Bool := false
  /-- The files themselves are changed, and what they were before is kept under another name. -/
  inPlace : Option Raw := none
  width : Nat := 70
  lineEnd : Char := '\n'

/-- Where the range of a step stands. -/
inductive RangePlace where
  /-- The first line was found; the last one may be known. -/
  | inside (last : Option Nat)
  /-- The last line was found. -/
  | past
deriving DecidableEq, Repr

/-- What is printed at the end of a cycle. -/
inductive Appended where
  | text (text : Raw)
  | file (name : Raw)
  | line (name : Raw)

structure Machine where
  settings : Settings
  /-- The line that is edited. -/
  space : Raw := []
  /-- That line ends with a line end. -/
  isWhole : Bool := true
  /-- The text that is kept, and whether it ends with a line end. -/
  kept : Raw := []
  isKeptWhole : Bool := true
  /-- The number of the line. -/
  number : Nat := 0
  isReplaced : Bool := false
  appended : List Appended := []
  /-- The file that is read, and its name. -/
  source : Option Lines := none
  name : Raw := ['-']
  /-- The files that are still to be read. -/
  names : List Raw
  /-- The pattern that was used last. -/
  pattern : Option TextPattern := none
  /-- The ranges of steps by their number. -/
  ranges : List (Nat × RangePlace) := []
  /-- The files that are written, and their descriptors. -/
  files : List (Raw × Nat) := []
  /-- The files whose lines are added one by one. -/
  lineFiles : List (Raw × Lines) := []
  /-- The targets whose last line has no end yet. -/
  lacking : List Target := []
  /-- What a file is to become, the latest part first. -/
  changed : List Raw := []
  /-- The status because of files that could not be used. -/
  status : Nat := 0

abbrev Editing := StateT Machine Utility

namespace Editing

/-- Complains; what was printed before stays where it is. -/
def tell (message : Raw) : Editing Unit := do
  remark ((← Utility.state).name ++ ": ".toList ++ message ++ ['\n'])

/-- Complains, and ends with a status. -/
def abort {α : Type} (message : Raw) (status : Nat := 4) : Editing α := do
  tell message
  (exit status : Utility α)

def put (target : Target) (text : Raw) : Editing Unit := do
  let machine ← get
  match target with
  | .complaints => remark text
  | .file name =>
    match machine.files.find? (·.1 = name) with
    | some (_, descriptor) =>
      let _ ← (ask (.write descriptor (Raw.toBytes text)) : Utility (Except OsError Unit))
    | none => pure ()
  | .output =>
    if machine.settings.inPlace.isSome && machine.source.isSome then
      set { machine with changed := text :: machine.changed }
    else print text

/-- Ends the last line of a target if it has no end yet. -/
def endLine (target : Target) : Editing Unit := do
  let machine ← get
  if machine.lacking.contains target then
    set { machine with lacking := machine.lacking.filter (· ≠ target) }
    put target [machine.settings.lineEnd]

/-- Writes a text on lines of its own. -/
def putText (target : Target) (text : Raw) : Editing Unit := do
  endLine target
  put target text

/-- Writes a line, which ends if the line that is edited does. -/
def putLine (target : Target) (text : Raw) : Editing Unit := do
  endLine target
  let machine ← get
  if machine.isWhole then put target (text ++ [machine.settings.lineEnd])
  else
    put target text
    modify fun machine => { machine with lacking := target :: machine.lacking }

/-- Prints what was added to the cycle. -/
def flushAppended : Editing Unit := do
  let appended := (← get).appended
  modify fun machine => { machine with appended := [] }
  appended.reverse.forM fun
    | .text text => putText .output text
    | .file name => do
      let isInput : Bool := name == "/dev/stdin".toList
      match ← if isInput then pure (.ok input) else openFile name with
      | .error _ => pure ()
      | .ok descriptor =>
        match ← readAll descriptor with
        | .ok bytes => if bytes.isEmpty then pure () else putText .output (Raw.ofBytes bytes)
        | .error _ => pure ()
        if !isInput then close descriptor
    | .line name => do
      let machine ← get
      let lines? ← match machine.lineFiles.find? (·.1 = name) with
        | some (_, lines) => pure (some lines)
        | none =>
          match ← openFile name with
          | .ok descriptor =>
            pure (some { descriptor, lineEnd := machine.settings.lineEnd : Lines })
          | .error _ => pure none
      match lines? with
      | none => pure ()
      | some lines =>
        match ← lines.next with
        | .ok (some (line, lines)) =>
          let others := machine.lineFiles.filter (·.1 ≠ name)
          modify fun machine => { machine with lineFiles := (name, lines) :: others }
          putText .output (if line.isWhole then line.text ++ [lines.lineEnd] else line.text)
        | _ => pure ()

/-- A name beside a file, in which an asterisk stands for the name of the file. -/
def backupName (file suffix : Raw) : Raw :=
  let step := Naming.lastStep file
  let name := if suffix.contains '*' then suffix.flatMap fun c => if c = '*' then step else [c]
    else step ++ suffix
  if name.contains '/' then name
  else
    let above := file.take (file.length - step.length)
    above ++ name

def replaceFile : Editing Unit := do
  let machine ← get
  match machine.settings.inPlace with
  | none => pure ()
  | some suffix =>
    let path (name : Raw) : Path := ⟨Raw.toString name⟩
    let mode ← match ← statusOf machine.name true with
      | .ok status => pure status.mode
      | .error _ => pure 0o644
    let above := machine.name.take (machine.name.length - (Naming.lastStep machine.name).length)
    let draft := above ++ "sedXXXXXX".toList
    match ← (ask (.open (path draft) .make 0o600) : Utility (Except OsError Nat)) with
    | .error error =>
      abort ("couldn't open temporary file ".toList ++ above ++ "sedXXXXXX: ".toList ++
        error.reason.toList)
    | .ok descriptor =>
      let bytes := Raw.toBytes machine.changed.reverse.flatten
      let _ ← (ask (.write descriptor bytes) : Utility (Except OsError Unit))
      close descriptor
      let _ ← (ask (.setMode (path draft) mode) : Utility (Except OsError Unit))
      if !suffix.isEmpty then
        let _ ← (ask (.rename (path machine.name) (path (backupName machine.name suffix))) :
          Utility (Except OsError Unit))
      let _ ← (ask (.rename (path draft) (path machine.name)) : Utility (Except OsError Unit))
    let lacking := machine.lacking.filter (· ≠ .output)
    modify fun machine => { machine with changed := [], lacking }

def closeSource : Editing Unit := do
  let machine ← get
  match machine.source with
  | none => pure ()
  | some lines =>
    replaceFile
    if lines.descriptor ≠ input then close lines.descriptor
    modify fun machine => { machine with source := none }

/-- Says that a file cannot be used. -/
def missing (message : Raw) : Editing Unit := do
  tell message
  modify fun machine => { machine with status := max machine.status 2 }

def openSource (name : Raw) : Editing Unit := do
  let machine ← get
  let isInPlace := machine.settings.inPlace.isSome
  let lineEnd := machine.settings.lineEnd
  let start (descriptor : Nat) : Editing Unit := do
    modify fun machine => { machine with
      source := some { descriptor, lineEnd }
      name
      number := if machine.settings.separate then 0 else machine.number }
    if machine.settings.separate then
      modify fun machine => { machine with
        ranges := [], lineFiles := [], kept := [], isKeptWhole := true }
  if name = ['-'] && !isInPlace then start input
  else
    let kind ← match ← statusOf name true with
      | .ok status => pure (some status.kind)
      | .error _ => pure none
    let isOdd : Bool := isInPlace && kind.any (· != .file)
    if isOdd then
      modify fun machine => { machine with status := 4 }
      tell ("couldn't edit ".toList ++ name ++ ": not a regular file".toList)
    else
      match ← openFile name with
      | .error error => missing ("can't read ".toList ++ name ++ ": ".toList ++ error.reason.toList)
      | .ok descriptor => start descriptor

/-- Makes sure that the next line is there, if there is one: opens files as needed. Tells whether there is
one. Files of their own have no next line after their last one unless `crosses`. -/
def prepare (crosses : Bool) : (fuel : Nat) → Editing Bool
  | 0 => return false
  | fuel + 1 => do
    let machine ← get
    match machine.source with
    | some lines =>
      match ← lines.fill forever with
      | .error error =>
        let name := if machine.name = ['-'] then "stdin".toList else machine.name
        abort ("read error on ".toList ++ name ++ ": ".toList ++ error.reason.toList)
      | .ok lines =>
        set { machine with source := some lines }
        if !lines.held.isEmpty then return true
        else if machine.settings.separate && !crosses then return false
        else if machine.names.isEmpty && !crosses then return false
        else
          closeSource
          prepare crosses fuel
    | none =>
      match machine.names with
      | [] => return false
      | name :: names =>
        set { machine with names }
        openSource name
        prepare crosses fuel

/-- The line that is edited is the last one. -/
def isLast : Editing Bool := do
  return !(← prepare false forever)

/-- Reads the next line, if there is one. -/
def readNext : Editing (Option Raw) := do
  flushAppended
  modify fun machine => { machine with isReplaced := false }
  if ← prepare true forever then
    let machine ← get
    match machine.source with
    | none => return none
    | some lines =>
      match lines.take? with
      | none => return none
      | some (line, lines) =>
        set { machine with
          source := some lines, isWhole := line.isWhole, number := machine.number + 1 }
        return some line.text
  else return none

end Editing
end WheelInstaller.Utility.Editor
