import WheelInstaller.Utility.Concatenation
import WheelInstaller.Utility.Editor.Machine
import WheelInstaller.Utility.Editor.Script
import WheelInstaller.Utility.Editor.Reading
import WheelInstaller.Utility.Options

/-! `sed`: editing lines by a script, whose steps are run on every line. -/

namespace WheelInstaller.Utility.Editor

open Process Editing

/-! ### Running the steps of a script -/

/-- Complains about the script while it runs. -/
def faultAtRun {α : Type} (message : Raw) : Editing α :=
  abort ("-e expression #1, char 0: ".toList ++ message) 1

/-- The pattern that is meant, which is from now on the last one that was used. -/
def usePattern (pattern : ScriptPattern) : Editing TextPattern := do
  match pattern with
  | some pattern =>
    modify fun machine => { machine with pattern := some pattern }
    return pattern
  | none =>
    match (← get).pattern with
    | some pattern => return pattern
    | none => faultAtRun "no previous regular expression".toList

def Address.holds (address : Address) : Editing Bool := do
  match address with
  | .number line => return (← get).number = line
  | .every first step =>
    let number := (← get).number
    return first ≤ number && (number - first) % step = 0
  | .last => isLast
  | .fits pattern =>
    let pattern ← usePattern pattern
    return (pattern.find? (← get).space).isSome

def setRange (step : Nat) (place : RangePlace) : Editing Unit :=
  modify fun machine =>
    { machine with ranges := (step, place) :: machine.ranges.filter (·.1 ≠ step) }

/-- The line starts a range, which may end with it. -/
def startRange (step : Nat) (last : RangeEnd) : Editing Unit := do
  let number := (← get).number
  let upTo (last : Nat) : Editing Unit :=
    setRange step (if last ≤ number then .past else .inside (some last))
  match last with
  | .reaching (.number last) => upTo last
  | .after count => upTo (number + count)
  | .multiple factor =>
    upTo (if factor = 0 then number else (number / factor + 1) * factor)
  | .reaching (.every first factor) =>
    let isEnd ← (Address.every first factor).holds
    setRange step (if isEnd then .past else .inside none)
  | .reaching _ => setRange step (.inside none)

/-- The line lies in the range of a step. -/
def inRange (step : Nat) (first : Address) (last : RangeEnd) : Editing Bool := do
  let machine ← get
  let place := (machine.ranges.find? (·.1 = step)).map (·.2)
  let isZero : Bool := match first with
    | .number 0 => true
    | _ => false
  let place := if isZero && place.isNone then some (.inside none) else place
  match place with
  | some (.inside (some finish)) =>
    if finish ≤ machine.number then setRange step .past
    let isExact : Bool := match last with
      | .reaching _ => true
      | _ => false
    return !isExact || machine.number ≤ finish
  | some (.inside none) =>
    match last with
    | .reaching address =>
      if ← address.holds then setRange step .past
      return true
    | _ => return true
  | place =>
    let isSpent : Bool := match place, first with
      | some .past, .number _ => true
      | _, _ => false
    if isSpent then return false
    else if ← first.holds then
      startRange step last
      return true
    else return false

def Selection.holds (lines : Selection) (step : Nat) : Editing Bool := do
  let isIn ← match lines.first, lines.last with
    | none, _ => pure true
    | some first, none => first.holds
    | some first, some last => inRange step first last
  return isIn ≠ lines.negated

def listed (c : Char) : Raw :=
  match c with
  | '\\' => ['\\', '\\']
  | '\x07' => ['\\', 'a']
  | '\x08' => ['\\', 'b']
  | '\x0c' => ['\\', 'f']
  | '\n' => ['\\', 'n']
  | '\r' => ['\\', 'r']
  | '\t' => ['\\', 't']
  | '\x0b' => ['\\', 'v']
  | c => if isPrintable c then [c] else '\\' :: octal c

/-- Texts in lines of a width, of which all but the last end with a backslash. -/
def foldTexts (width : Nat) : (used : Nat) → List Raw → Raw
  | _, [] => ['$', '\n']
  | used, text :: rest =>
    if width ≠ 0 && width - 1 < used + text.length then
      '\\' :: '\n' :: text ++ foldTexts width text.length rest
    else text ++ foldTexts width (used + text.length) rest

inductive Flow where
  /-- With the step of that number. -/
  | step (number : Nat)
  /-- With the next line. -/
  | nextLine
  /-- With the same line from the start. -/
  | sameLine
  /-- All is over. -/
  | over (status : Nat)

/-- Prints the line that is edited, unless lines are printed only on demand. -/
def printSpace : Editing Unit := do
  let machine ← get
  if !machine.settings.isQuiet then putLine .output machine.space

def putFirst (target : Target) : Editing Unit := do
  let machine ← get
  match Raw.splitAt? machine.settings.lineEnd machine.space with
  | some (first, _) => putText target (first ++ [machine.settings.lineEnd])
  | none => putLine target machine.space

def runSubstitution (substitution : Substitution) : Editing Unit := do
  let pattern ← usePattern substitution.pattern
  let largest := largestPart substitution.pieces
  if pattern.partCount < largest then faultAtRun (partComplaint largest)
  match substitution.replace? pattern (← get).space with
  | none => pure ()
  | some space =>
    modify fun machine => { machine with space, isReplaced := true }
    if substitution.prints then putLine .output space
    match substitution.target with
    | some target => putLine target space
    | none => pure ()

/-- Does what an action says, for the step of that number. -/
def runAction (step : Nat) (lines : Selection) (action : Action) : Editing Flow := do
  let machine ← get
  let lineEnd := machine.settings.lineEnd
  let goOn (work : Editing Unit) : Editing Flow := do
    work
    return .step (step + 1)
  let change (space : Raw) : Editing Flow :=
    goOn (modify fun machine => { machine with space })
  match action with
  | .block _ | .blockEnd | .label _ => goOn (pure ())
  | .jump kind _ target =>
    let isMade : Bool := match kind with
      | .always => true
      | .replaced wanted => machine.isReplaced == wanted
    match kind with
    | .replaced _ => modify fun machine => { machine with isReplaced := false }
    | .always => pure ()
    return .step (if isMade then target.getD step else step + 1)
  | .append text =>
    goOn (modify fun machine => { machine with appended := .text text :: machine.appended })
  | .insert text => goOn (if text.isEmpty then pure () else putText .output text)
  | .change text =>
    let isInside : Bool := match machine.ranges.find? (·.1 = step) with
      | some (_, .inside _) => lines.last.isSome && !lines.negated
      | _ => false
    if !isInside && !text.isEmpty then putText .output text
    return .nextLine
  | .printNumber => goOn (putText .output (Raw.ofNat machine.number ++ ['\n']))
  | .printName => goOn (putText .output (machine.name ++ ['\n']))
  | .delete => return .nextLine
  | .deleteFirst =>
    if machine.space.contains lineEnd then
      let space := (machine.space.dropWhile (· ≠ lineEnd)).drop 1
      set { machine with space }
      return .sameLine
    else return .nextLine
  | .take => goOn (set { machine with space := machine.kept, isWhole := machine.isKeptWhole })
  | .takeMore => goOn (set { machine with
      space := machine.space ++ lineEnd :: machine.kept
      isWhole := machine.isWhole || machine.isKeptWhole })
  | .keep => goOn (set { machine with kept := machine.space, isKeptWhole := machine.isWhole })
  | .keepMore => goOn (set { machine with
      kept := machine.kept ++ lineEnd :: machine.space
      isKeptWhole := machine.isKeptWhole || machine.isWhole })
  | .exchange => goOn (set { machine with
      space := machine.kept, isWhole := machine.isKeptWhole
      kept := machine.space, isKeptWhole := machine.isWhole })
  | .clear => change []
  | .list width =>
    let width := width.getD machine.settings.width
    goOn (putText .output (foldTexts width 0 (machine.space.map listed)))
  | .next =>
    let isLast ← isLast
    printSpace
    if isLast then return .nextLine
    else
      match ← readNext with
      | some space => change space
      | none => return .nextLine
  | .nextMore =>
    if ← isLast then
      printSpace
      return .nextLine
    else
      let before := machine.space
      match ← readNext with
      | some space => change (before ++ lineEnd :: space)
      | none => return .nextLine
  | .print => goOn (putLine .output machine.space)
  | .printFirst => goOn (putFirst .output)
  | .quit prints status =>
    if prints then
      printSpace
      flushAppended
    return .over status
  | .readFile name =>
    goOn (modify fun machine => { machine with appended := .file name :: machine.appended })
  | .readLine name =>
    goOn (modify fun machine => { machine with appended := .line name :: machine.appended })
  | .write target => goOn (putLine target machine.space)
  | .writeFirst target => goOn (putFirst target)
  | .substitute substitution => goOn (runSubstitution substitution)
  | .translate table =>
    change (machine.space.map fun c => ((table.find? (·.1 = c)).map (·.2)).getD c)

def runSteps (script : Script) : (fuel : Nat) → (number : Nat) → Editing Flow
  | 0, _ => return .nextLine
  | fuel + 1, number => do
    match script[number]? with
    | none =>
      printSpace
      return .nextLine
    | some step =>
      let isFor ← step.lines.holds number
      match isFor, step.action with
      | false, .block finish => runSteps script fuel finish
      | false, _ => runSteps script fuel (number + 1)
      | true, action =>
        match ← runAction number step.lines action with
        | .step number => runSteps script fuel number
        | flow => return flow

/-- Runs the script on line after line. Tells the status. -/
def runLines (script : Script) : (fuel : Nat) → (isRead : Bool) → Editing Nat
  | 0, _ => return 0
  | fuel + 1, isRead => do
    let isThere ←
      if isRead then do
        flushAppended
        pure true
      else
        match ← readNext with
        | some space =>
          modify fun machine => { machine with space }
          pure true
        | none => pure false
    if !isThere then return 0
    else
      match ← runSteps script forever 0 with
      | .over status => return status
      | .sameLine => runLines script fuel true
      | .step _ | .nextLine => runLines script fuel false

def createFiles (script : Script) : Editing Unit :=
  (script.toList.flatMap (·.action.targets)).forM fun
    | .file name => do
      if !(← get).files.any (·.1 = name) then
        match ← (ask (.open ⟨Raw.toString name⟩ .replace 0o666) : Utility (Except OsError Nat)) with
        | .ok descriptor =>
          modify fun machine => { machine with files := (name, descriptor) :: machine.files }
        | .error error =>
          abort ("couldn't open file ".toList ++ name ++ ": ".toList ++ error.reason.toList)
    | _ => pure ()

/-- Edits all lines of the files. Tells the status. -/
def edit (script : Script) : Editing Nat := do
  createFiles script
  let status ← runLines script forever false
  flushAppended
  closeSource
  let machine ← get
  return if status = 0 then machine.status else status

/-! ### The program -/

def help : String :=
  "Usage: sed [OPTION]... \x7bscript-only-if-no-other-script\x7d [input-file]...\n\n" ++
  "  -n, --quiet, --silent\n" ++
  "                 suppress automatic printing of pattern space\n" ++
  "      --debug\n" ++
  "                 annotate program execution\n" ++
  "  -e script, --expression=script\n" ++
  "                 add the script to the commands to be executed\n" ++
  "  -f script-file, --file=script-file\n" ++
  "                 add the contents of script-file to the commands to be executed\n" ++
  "  --follow-symlinks\n" ++
  "                 follow symlinks when processing in place\n" ++
  "  -i[SUFFIX], --in-place[=SUFFIX]\n" ++
  "                 edit files in place (makes backup if SUFFIX supplied)\n" ++
  "  -l N, --line-length=N\n" ++
  "                 specify the desired line-wrap length for the \x60l' command\n" ++
  "  --posix\n" ++
  "                 disable all GNU extensions.\n" ++
  "  -E, -r, --regexp-extended\n" ++
  "                 use extended regular expressions in the script\n" ++
  "                 (for portability use POSIX -E).\n" ++
  "  -s, --separate\n" ++
  "                 consider files as separate rather than as a single,\n" ++
  "                 continuous long stream.\n" ++
  "      --sandbox\n" ++
  "                 operate in sandbox mode (disable e/r/w commands).\n" ++
  "  -u, --unbuffered\n" ++
  "                 load minimal amounts of data from the input files and flush\n" ++
  "                 the output buffers more often\n" ++
  "  -z, --null-data\n" ++
  "                 separate lines by NUL characters\n" ++
  "      --help     display this help and exit\n" ++
  "      --version  output version information and exit\n\n" ++
  "If no -e, --expression, -f, or --file option is given, then the first\n" ++
  "non-option argument is taken as the sed script to interpret.  All\n" ++
  "remaining arguments are names of input files; if no input files are\n" ++
  "specified, then the standard input is read.\n"

structure Arguments where
  settings : Settings := {}
  isExtended : Bool := false
  progress : Progress := {}
  /-- How many portions of the script were arguments. -/
  portions : Nat := 0
  hasScript : Bool := false

def options : Options where
  letters := Options.valuedLetters "efl" ++ Options.plainLetters "nErsuz" ++ [('i', .optional)]
  words := [
    ("quiet", .plain, "n"), ("silent", .plain, "n"), ("debug", .plain, ""),
    ("expression", .valued, "e"), ("file", .valued, "f"), ("follow-symlinks", .plain, ""),
    ("in-place", .optional, "i"), ("line-length", .valued, "l"), ("posix", .plain, ""),
    ("regexp-extended", .plain, "E"), ("separate", .plain, "s"), ("sandbox", .plain, ""),
    ("unbuffered", .plain, "u"), ("null-data", .plain, "z"), ("zero-terminated", .plain, "z"),
    ("help", .plain, "help")]

/-- Complains about how the program was called. -/
def refuse {α : Type} : Utility α := do
  remark help.toList
  exit 1

def Arguments.addPortion (arguments : Arguments) (origin : Origin) (portion : Raw) :
    Utility Arguments := do
  let form : Form := {
    isExtended := arguments.isExtended, hasLines := arguments.settings.lineEnd = '\n' }
  match arguments.progress.read form origin portion with
  | .error (complaint, targets) =>
    targets.forM fun
      | .file name => do
        let _ ← ask (.open ⟨Raw.toString name⟩ .replace 0o666)
      | _ => pure ()
    die 1 complaint
  | .ok progress => return { arguments with progress, hasScript := true }

def Arguments.addArgument (arguments : Arguments) (portion : Raw) : Utility Arguments := do
  let number := arguments.portions + 1
  { arguments with portions := number }.addPortion (.argument number) portion

/-- What the arguments say, with an option. -/
def Arguments.take (arguments : Arguments) (key : String) (value : Raw) : Utility Arguments := do
  let settings := arguments.settings
  match key with
  | "n" => return { arguments with settings := { settings with isQuiet := true } }
  | "e" => arguments.addArgument value
  | "f" =>
    let isInput : Bool := value == ['-']
    match ← if isInput then pure (.ok input) else openFile value with
    | .error error =>
      die 4 ("couldn't open file ".toList ++ value ++ ": ".toList ++ error.reason.toList)
    | .ok descriptor =>
      match ← readAll descriptor with
      | .error error =>
        die 4 ("couldn't read file ".toList ++ value ++ ": ".toList ++ error.reason.toList)
      | .ok bytes =>
        if !isInput then close descriptor
        arguments.addPortion (.file value) (Raw.ofBytes bytes)
  | "i" => return { arguments with
      settings := { settings with inPlace := some value, separate := true } }
  | "l" =>
    let width := Raw.digitsValue (value.takeWhile Char.isDigit)
    return { arguments with settings := { settings with width } }
  | "E" | "r" => return { arguments with isExtended := true }
  | "s" => return { arguments with settings := { settings with separate := true } }
  | "z" => return { arguments with settings := { settings with lineEnd := '\x00' } }
  | "help" =>
    print help.toList
    exit 0
  | _ => return arguments

/-- `sed`. -/
def run (arguments : List Raw) : Utility Unit := do
  breakWith 4
  let (items, operands) := options.read arguments.length arguments
  let bad (message : Raw) : Utility Arguments := do
    complain message
    refuse
  let found ← takeOptions bad Arguments.take ({} : Arguments) items
  let (found, names) ← match found.hasScript, operands with
    | true, names => pure (found, names)
    | false, script :: names => do pure (← found.addArgument script, names)
    | false, [] => refuse
  match found.progress.finish with
  | .error (status, complaint) => die status complaint
  | .ok script =>
    let isQuiet := found.settings.isQuiet || found.progress.isQuiet
    let machine : Machine := {
      settings := { found.settings with isQuiet }
      names := if names.isEmpty then [['-']] else names }
    let (status, _) ← (edit script).run machine
    exit status

end WheelInstaller.Utility.Editor
