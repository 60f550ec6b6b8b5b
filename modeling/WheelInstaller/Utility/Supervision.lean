import WheelInstaller.Process.Activity
import WheelInstaller.Utility.Condition
import WheelInstaller.Utility.Launch
import WheelInstaller.Utility.Options
import WheelInstaller.Utility.Printing

/-! Programs that the shell has as commands of its own as well, and `sleep`. -/

namespace WheelInstaller.Utility.Plain

open Process

def present (outcome : Outcome) : Utility Unit := do
  outcome.utterances.forM fun
    | .output text => print text
    | .complaint message => complain message
  mark outcome.status

def echo (arguments : List Raw) : Utility Unit :=
  print (Printing.echo .program arguments)

def format (arguments : List Raw) : Utility Unit := do
  let arguments := if arguments.head? = some ['-', '-'] then arguments.tail else arguments
  match arguments with
  | [] => misuse 1 "missing operand".toList
  | format :: rest => present (Printing.printFormat .program format rest)

/-- What is known about the files that words name. -/
def lookUp : List Raw → (found : List (Raw × Bool × Status)) →
    Utility (List (Raw × Bool × Status))
  | [], found => return found
  | word :: rest, found => do
    let note (follow : Bool) (found : List (Raw × Bool × Status)) :
        Utility (List (Raw × Bool × Status)) := do
      match ← statusOf word follow with
      | .ok status => return (word, follow, status) :: found
      | .error _ => return found
    lookUp rest (← note false (← note true found))

def test (words : List Raw) : Utility Unit := do
  let found ← if Condition.concernsFiles words then lookUp words [] else pure []
  let verdict := Condition.program (Condition.ofList found) words
  match verdict with
  | .error complaint => complain complaint
  | .ok _ => pure ()
  mark (Condition.statusOf verdict)

/-- `[`, which is `test` up to a closing bracket. -/
def bracket (words : List Raw) : Utility Unit := do
  if words.getLast? = some [']'] then test words.dropLast else die 2 "missing ']'".toList

/-- The environment tells the path of the current directory in plain steps. -/
def toldDirectory : Utility (Option Raw) := do
  let told := (← state).environment.find? fun (name, _) => name = "PWD".toList
  match told with
  | none => return none
  | some (_, path) =>
    let steps := Raw.split '/' path
    if path.head? ≠ some '/' || steps.contains ['.'] || steps.contains ['.', '.'] then return none
    else
      match ← statusOf path true, ← statusOf ['.'] true with
      | .ok there, .ok here => return if there.identity = here.identity then some path else none
      | _, _ => return none

def directory (arguments : List Raw) : Utility Unit := do
  let options : Options := {
    letters := Options.plainLetters "LP"
    words := [("logical", .plain, "L"), ("physical", .plain, "P")] }
  let (logical, operands) ← readOptions options 1 false (fun _ key _ => return key = "L") arguments
  if !operands.isEmpty then complain "ignoring non-option arguments".toList
  let told ← if logical then toldDirectory else pure none
  match told with
  | some path => printLine path
  | none =>
    let path : Raw ← ask .currentDirectory
    printLine path

def unit? : Raw → Option Nat
  | [] | ['s'] => some 1000000
  | ['m'] => some 60000000
  | ['h'] => some 3600000000
  | ['d'] => some 86400000000
  | _ => none

def duration? (text : Raw) : Option Nat := do
  let (negative, digits) := Printing.takeSign (text.dropWhile Raw.isSpace)
  match ← Printing.takeMagnitude? Fraction.double digits with
  | (.finite value, _, rest) =>
    let unit ← unit? rest
    if negative && value.numerator ≠ 0 then none
    else some ((value.numerator * unit + value.denominator - 1) / value.denominator)
  | (.infinite, _, rest) =>
    let _ ← unit? rest
    if negative then none else some forever
  | (.notNumber, _, _) => none

/-- Adds up durations, and complains about what is none. -/
def addDurations : List Raw → (total : Nat) → Utility Nat
  | [], total => return total
  | text :: rest, total => do
    match duration? text with
    | some duration => addDurations rest (total + duration)
    | none =>
      fault ("invalid time interval ".toList ++ quoteWord text)
      addDurations rest total

def sleep (arguments : List Raw) : Utility Unit := do
  let (_, operands) ← readOptions {} 1 () (fun _ _ _ => return ()) arguments
  if operands.isEmpty then misuse 1 "missing operand".toList
  let total ← addDurations operands 0
  if (← state).status ≠ 0 then suggest 1
  ask (.sleep total)

/-- Prints a text again and again, as long as it is taken. -/
def printForever (text : ByteArray) : (rounds : Nat) → Utility Unit
  | 0 => return ()
  | rounds + 1 => do
    match ← ask (.write 1 text) with
    | .ok () => printForever text rounds
    | .error error => die 1 (because "standard output".toList error)

def affirm (arguments : List Raw) : Utility Unit := do
  let (_, operands) ← readOptions {} 1 () (fun _ _ _ => return ()) arguments
  let line := (if operands.isEmpty then ['y'] else Raw.join [' '] operands) ++ ['\n']
  let copies := max 1 (8192 / line.length)
  printForever (Raw.toBytes (List.replicate copies line).flatten) forever

end WheelInstaller.Utility.Plain

/-! `timeout`, `nohup` and `nice`: programs that run others under conditions. -/

namespace WheelInstaller.Utility.Supervision

open Process

structure Settings where
  signal : Nat := 15
  /-- How long after the signal the command is ended for good. -/
  patience : Option Nat := none
  /-- The status is that of the command. -/
  keepsStatus : Bool := false
  tells : Bool := false

/-- The status when something is wrong with the call. -/
def cancelled : Nat := 125

def options : Options where
  letters := Options.valuedLetters "ks" ++ Options.plainLetters "v"
  words := [
    ("kill-after", .valued, "k"), ("signal", .valued, "s"), ("verbose", .plain, "v"),
    ("foreground", .plain, "foreground"), ("preserve-status", .plain, "preserve")]
  strict := true

def signal? (text : Raw) : Option Nat :=
  if !text.isEmpty && text.all Char.isDigit then
    let number := Raw.digitsValue text
    if number ≤ Signal.greatest then some number else none
  else
    let upper := text.map Char.toUpper
    let name := if "SIG".toList.isPrefixOf upper then upper.drop 3 else upper
    (List.range (Signal.greatest + 1)).find? fun number => Signal.word number = name

/-- The time that an argument tells, in microseconds. -/
def readDuration (text : Raw) : Utility Nat := do
  match Plain.duration? text with
  | some duration => return duration
  | none => misuse cancelled ("invalid time interval ".toList ++ quoteWord text)

def Settings.take (settings : Settings) (key : String) (value : Raw) : Utility Settings := do
  match key with
  | "k" => return { settings with patience := some (← readDuration value) }
  | "s" =>
    match signal? value with
    | some signal => return { settings with signal }
    | none => misuse cancelled (quoteWord value ++ ": invalid signal".toList)
  | "v" => return { settings with tells := true }
  | "preserve" => return { settings with keepsStatus := true }
  | _ => return settings

/-- Becomes a command, or complains that it cannot be run. -/
def replaceBy (command : List Raw) (complaint : Raw → Raw) : Utility Unit := do
  let name := command.headD []
  let error ← become name command.tail (← state).environment
  complain (because (complaint name) error)
  exit (if error = .notFound then 127 else 126)

/-- The complaint about a command that cannot be run. -/
def runFault (name : Raw) : Raw :=
  "failed to run command ".toList ++ quoteWord name

def send (number signal : Nat) : Utility Unit := do
  let _ ← ask (.kill number signal)

/-- A process that ends a command after some time. -/
def Settings.timer (settings : Settings) (duration target signal : Nat) (name : Raw) :
    Utility Nat :=
  fork do
    ask (.sleep duration)
    if settings.tells then
      complain ("sending signal ".toList ++ Signal.word signal ++ " to command ".toList ++
        quoteWord name)
    send target signal
    exit 0

/-- Waits for the first of two processes to end, and tells which one it was. -/
def waitForFirst (first second : Nat) : (rounds : Nat) → Utility (Nat × Host.ExitStatus)
  | 0 => return (first, .code 0)
  | rounds + 1 => do
    match ← ask (.await none true false) with
    | .ended number status =>
      if number = first || number = second then return (number, status)
      else waitForFirst first second rounds
    | _ => return (first, .code 0)

/-- Ends a timer, and tells whether its time was up before. -/
def stopTimer (number : Nat) : Utility Bool := do
  send number 9
  return (← waitFor number forever) = .code 0

/-- Waits for a command whose time is up. -/
def Settings.waitLonger (settings : Settings) (child : Nat) (name : Raw) :
    Utility Host.ExitStatus := do
  match settings.patience with
  | none => waitFor child forever
  | some patience =>
    let second ← settings.timer patience child 9 name
    let (number, status) ← waitForFirst child second forever
    if number = child then
      let _ ← stopTimer second
      return status
    else waitFor child forever

/-- Ends as the command did. -/
def endAs (status : Host.ExitStatus) (isLate keepsStatus : Bool) : Utility Unit := do
  match status with
  | .code value => exit (if isLate && !keepsStatus then 124 else value)
  | .signal number =>
    if !isLate || number = 9 then
      let (own, _) ← ask .numbers
      let _ ← ask (.react number (some .usual))
      send own number
    exit (if isLate && !keepsStatus && number ≠ 9 then 124 else 128 + number)

def limitTime (arguments : List Raw) : Utility Unit := do
  breakWith cancelled
  let (settings, operands) ← readOptions options cancelled ({} : Settings) Settings.take arguments
  match operands with
  | [] | [_] => suggest cancelled
  | time :: command =>
    let duration ← readDuration time
    let child ← fork (replaceBy command runFault)
    if duration = 0 then endAs (← waitFor child forever) false false
    else
      let name := command.headD []
      let watch ← settings.timer duration child settings.signal name
      let (number, status) ← waitForFirst child watch forever
      if number = child then
        let isLate ← stopTimer watch
        endAs status isLate settings.keepsStatus
      else endAs (← settings.waitLonger child name) true settings.keepsStatus

def withoutHangup (arguments : List Raw) : Utility Unit := do
  breakWith cancelled
  let (_, command) ← readOptions { strict := true } cancelled () (fun _ _ _ => return ()) arguments
  if command.isEmpty then misuse cancelled "missing operand".toList
  let _ ← ask (.react 1 (some .ignored))
  replaceBy command runFault

/-- The old way of telling an adjustment, in the new one. -/
def modernAdjustment (arguments : List Raw) : List Raw :=
  match arguments with
  | ('-' :: c :: digits) :: rest =>
    if (c.isDigit || ((c = '-' || c = '+') && digits.head?.any Char.isDigit)) then
      "-n".toList :: (c :: digits) :: rest
    else arguments
  | arguments => arguments

def withPriority (arguments : List Raw) : Utility Unit := do
  breakWith cancelled
  let options : Options := {
    letters := [('n', .valued)], words := [("adjustment", .valued, "n")], strict := true }
  let (adjustment, command) ← readOptions options cancelled (none : Option Raw)
    (fun _ _ value => return some value) (modernAdjustment arguments)
  match adjustment with
  | none => pure ()
  | some text =>
    let digits := match text with
      | '-' :: rest | '+' :: rest => rest
      | rest => rest
    if digits.isEmpty || !digits.all Char.isDigit then
      die cancelled ("invalid adjustment ".toList ++ quoteWord text)
    if command.isEmpty then misuse cancelled "a command must be given with an adjustment".toList
  if command.isEmpty then printLine ['0'] else replaceBy command quoteWord

end WheelInstaller.Utility.Supervision
