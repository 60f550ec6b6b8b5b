import WheelInstaller.Shell.Field
import WheelInstaller.Shell.Jobs
import WheelInstaller.Shell.Running
import WheelInstaller.Shell.Lookup

/-! The current directory. It goes by the path on which it was entered, whatever links are on that. -/

namespace WheelInstaller.Shell

open Process Running

/-- The slashes at the start of an absolute path. Just two of them are kept. -/
def rootOf : Raw → Raw
  | '/' :: '/' :: '/' :: _ => ['/']
  | '/' :: '/' :: _ => ['/', '/']
  | _ => ['/']

def stepsOf (path : Raw) : List Raw :=
  (Raw.split '/' path).filter fun step => !step.isEmpty

/-- Goes on by steps from a directory, whose steps are given with the latest first. -/
def walk : (entered : List Raw) → List Raw → List Raw
  | entered, [] => entered
  | entered, ['.'] :: rest => walk entered rest
  | entered, ['.', '.'] :: rest => walk entered.tail rest
  | entered, step :: rest => walk (step :: entered) rest

/-- The path of what is at a path from a directory, without steps that lead back or nowhere. -/
def pathFrom (directory path : Raw) : Raw :=
  let isAbsolute := path.head? = some '/'
  let root := rootOf (if isAbsolute then path else directory)
  let start := if isAbsolute then [] else (stepsOf directory).reverse
  root ++ Raw.join ['/'] (walk start (stepsOf path)).reverse

/-- Gives a name that programs are told a value. -/
def tell (name : String) (value : Raw) : Running Unit :=
  bind { name := name.toList, value := some value, exported := true }

/-- Notes the current directory by the path on which it was entered, or as it is. -/
def noteDirectory (path : Option Raw) : Running Unit := do
  match path with
  | some directory => modify fun state => { state with directory, physical := none }
  | none =>
    let directory ← ask .currentDirectory
    modify fun state => { state with directory, physical := some directory }
  tell "PWD" (← get).directory

def enter (physically : Bool) (path : Raw) : Running Bool := do
  let before := (← get).directory
  let entered := if physically then none else some (pathFrom before path)
  match ← ask (.enter ⟨Raw.toString (entered.getD path)⟩) with
  | .error _ => return false
  | .ok () =>
    tell "OLDPWD" before
    noteDirectory entered
    return true

/-- The path starts at the root, or with a step to the current directory or the one above. -/
def isDirect : Raw → Bool
  | '/' :: _ | ['.'] | '.' :: '/' :: _ | ['.', '.'] | '.' :: '.' :: '/' :: _ => true
  | _ => false

/-- The first directory of several paths, and whether it is told which one it was. -/
def findDirectory : List (Raw × Bool) → Running (Option (Raw × Bool))
  | [] => return none
  | (path, isTold) :: rest => do
    match ← ask (.status ⟨Raw.toString path⟩ true) with
    | .ok status =>
      if status.kind = .directory then return some (path, isTold) else findDirectory rest
    | .error _ => findDirectory rest

/-- The option for directories without links on the way is on. -/
def isPhysical (letters : List (Char × Raw)) : Bool :=
  letters.getLast?.any (·.1 = 'P')

def runEnter (arguments : List Raw) : Running Nat := do
  let (letters, rest) ← takeLetters (plainLetters "LP") arguments
  let state ← get
  let (wanted, isTold) := match rest with
    | [] => ((state.value? "HOME".toList).getD [], false)
    | ['-'] :: _ => ((state.value? "OLDPWD".toList).getD [], true)
    | wanted :: _ => (wanted, false)
  let wanted := if wanted.isEmpty then ['.'] else wanted
  let places :=
    if isDirect wanted then []
    else
      match state.value? "CDPATH".toList with
      | none => []
      | some path =>
        (candidates path wanted).zip ((Raw.split ':' path).map fun place => !place.isEmpty)
  let (path, isFound) := (← findDirectory places).getD (wanted, false)
  if ← enter (isPhysical letters) path then
    if isTold || isFound then printLine (← get).directory
    return 0
  else fail ("can't cd to ".toList ++ wanted)

def runTellDirectory (arguments : List Raw) : Running Nat := do
  let (letters, _) ← takeLetters (plainLetters "LP") arguments
  if isPhysical letters then
    if (← get).physical.isNone then
      let physical ← ask .currentDirectory
      modify fun state => { state with physical := some physical }
      tell "PWD" (← get).directory
    printLine ((← get).physical.getD [])
  else printLine (← get).directory
  return 0

end WheelInstaller.Shell

/-! `umask`: the permissions that new files do not get. -/

namespace WheelInstaller.Shell

open Process Running

def allPermissions : Nat := 0o777

def otherPermissions (permissions : Nat) : Nat :=
  allPermissions - (permissions &&& allPermissions)

/-- Permissions in octal digits, at least four. -/
def octalMode (mode : Nat) : Raw :=
  let digits := Nat.toDigits 8 mode
  List.replicate (4 - digits.length) '0' ++ digits

def letterMode (mode : Nat) : Raw :=
  let part (who : Char) (place : Nat) : Raw :=
    let has (bit : Nat) : Bool := (mode >>> place) &&& bit ≠ 0
    who :: '=' :: ((if has 4 then ['r'] else []) ++ (if has 2 then ['w'] else []) ++
      (if has 1 then ['x'] else []))
  Raw.join [','] [part 'u' 6, part 'g' 3, part 'o' 0]

/-- Whom a letter is about, as a one in each of the octal digits that are for them. -/
def whoOf? : Char → Option Nat
  | 'a' => some 0o111
  | 'u' => some 0o100
  | 'g' => some 0o010
  | 'o' => some 0o001
  | _ => none

/-- The permissions that a letter means, given all that there were. -/
def meantBy? (before : Nat) : Char → Option Nat
  | 'r' => some 4
  | 'w' => some 2
  | 'x' => some 1
  | 'u' => some (before >>> 6)
  | 'g' => some (before >>> 3)
  | 'o' => some before
  | 'X' => some (if before &&& 0o111 = 0 then 0 else 1)
  | 's' => some 0
  | _ => none

/-- What all letters at the start of a text mean together, and the text after them. -/
def takeMeant (meaning? : Char → Option Nat) : (meant : Nat) → Raw → Nat × Raw
  | meant, [] => (meant, [])
  | meant, c :: rest =>
    match meaning? c with
    | some more => takeMeant meaning? (meant ||| more) rest
    | none => (meant, c :: rest)

/-- Says how permissions change. -/
def isModeSign (c : Char) : Bool :=
  c = '=' || c = '+' || c = '-'

/-- The permissions after the changes that a text says, in at most `rounds` steps. `who` are those
the step before was about, unless a comma came after it. -/
def changeMode (before : Nat) : (rounds : Nat) → (who mode : Nat) → Raw → Option Nat
  | 0, _, mode, _ | _ + 1, _, mode, [] => some mode
  | rounds + 1, who, mode, text =>
    let (who, text) := takeMeant whoOf? who text
    let who := if who = 0 then 0o111 else who
    match text with
    | [] => some mode
    | sign :: rest =>
      if !isModeSign sign then none
      else
        let (meant, rest) := takeMeant (meantBy? before) 0 rest
        let meant := (meant &&& 7) * who
        let mode := match sign with
          | '-' => mode &&& otherPermissions meant
          | '=' => meant ||| (mode &&& otherPermissions (who * 7))
          | _ => mode ||| meant
        match rest with
        | [] => some mode
        | ',' :: rest => changeMode before rounds 0 mode rest
        | next :: _ => if isModeSign next then changeMode before rounds who mode rest else none

def runMask (arguments : List Raw) : Running Nat := do
  let (letters, rest) ← takeLetters (plainLetters "S") arguments
  let mask ← ask (.mask none)
  match rest with
  | [] =>
    printLine (if letters.isEmpty then octalMode mask else letterMode (otherPermissions mask))
  | text :: _ =>
    let new ←
      if text.head?.any Char.isDigit then
        if text.all fun c => '0' ≤ c && c ≤ '7' then
          pure (text.foldl (fun value c => 8 * value + (c.toNat - '0'.toNat)) 0)
        else illegalNumber text
      else
        match changeMode (otherPermissions mask) (text.length + 1) 0 (otherPermissions mask) text with
        | some mode => pure (otherPermissions mode)
        | none => fail ("Illegal mode: ".toList ++ text)
    let _ ← ask (.mask (some (new &&& allPermissions)))
  return 0

end WheelInstaller.Shell

/-! `read`: the fields of a line become the values of names. -/

namespace WheelInstaller.Shell

open Process Running

structure Intake where
  /-- The segments before the current one, the latest first. -/
  segments : List Segment := []
  /-- The current segment, with its latest glyph first. -/
  current : List Glyph := []
  /-- A backslash came last. -/
  escaping : Bool := false
  /-- The line has ended. -/
  isOver : Bool := false

namespace Intake

def close (intake : Intake) : Intake :=
  { intake with
    segments := ⟨intake.current.reverse, .atSeparators⟩ :: intake.segments, current := [] }

/-- The intake with one more character. After a backslash, a character means nothing but itself, and
the end of a line nothing at all. -/
def add (verbatim : Bool) (intake : Intake) (c : Char) : Intake :=
  if c = '\x00' || intake.isOver then intake
  else if intake.escaping then
    let closed := { intake.close with escaping := false }
    if c = '\n' then closed
    else { closed with segments := ⟨[.escaped c], .never⟩ :: closed.segments }
  else if !verbatim && c = '\\' then { intake with escaping := true }
  else if c = '\n' then { intake with isOver := true }
  else { intake with current := .plain c :: intake.current }

end Intake

/-- How much is read at once. -/
def intakeSize : Nat := 65536

/-- Reads up to the end of a line. Tells whether there was one. -/
def takeIn (verbatim : Bool) : (rounds : Nat) → Intake → Running (Intake × Bool)
  | 0, intake => return (intake, false)
  | rounds + 1, intake => do
    match ← ask (.read 0 intakeSize (some 10)) with
    | .error _ => return (intake, false)
    | .ok bytes =>
      if bytes.isEmpty then return (intake, false)
      else
        let intake := (Raw.ofBytes bytes).foldl (Intake.add verbatim) intake
        if intake.isOver then return (intake, true) else takeIn verbatim rounds intake

/-- Gives names values. Those that are left get empty ones. -/
def assignEach : (names values : List Raw) → Running Unit
  | [], _ => return ()
  | name :: names, values => do
    assign name (values.headD [])
    assignEach names values.tail

def runRead (arguments : List Raw) : Running Nat := do
  let (found, names) ← takeLetters [('p', true), ('r', false)] arguments
  if names.isEmpty then fail "arg count".toList
  let (intake, isWhole) ← takeIn (found.any (·.1 = 'r')) forever {}
  let separators := (← get).separators?.getD usualSeparators
  let fields := cutFields separators (some names.length) intake.close.segments.reverse
  assignEach names (fields.map textOf)
  return if isWhole then 0 else 1

end WheelInstaller.Shell

/-! The commands of the shell about jobs. -/

namespace WheelInstaller.Shell

open Process Running

/-- Takes note of the signals that came, and tells the status for the last of them. -/
def interruptedStatus : Running Nat := do
  let signals : List Nat ← ask .poll
  modify fun state => { state with pending := state.pending ++ signals }
  return 128 + signals.getLastD 0

/-- Waits until all jobs have ended, and tells the status. -/
def awaitAll : (rounds : Nat) → Running Nat
  | 0 => return 0
  | rounds + 1 => do
    if (← get).jobs.all Job.isDone then
      modify fun state =>
        { state with jobs := state.jobs.map fun job => { job with isKnown := true } }
      return 0
    else
      match ← ask (.await none true true) with
      | .ended process status =>
        noteEnd none process status
        awaitAll rounds
      | .interrupted => interruptedStatus
      | .nobody | .notYet => return 0

/-- The job whose last process an argument names, if there is one. -/
def awaitedJob? (text : Raw) : Running (Option Job) := do
  if text.head? = some '%' then return some (← findJob false (some text))
  else
    let process ← number text
    return (← get).jobs.find? fun job => job.members.getLast?.any (·.1 = process)

/-- Waits for jobs, and tells the status of the last, after the status so far. -/
def awaitEach : List Raw → (status : Nat) → Running Nat
  | [], status => return status
  | text :: rest, status => do
    match ← awaitedJob? text with
    | none => awaitEach rest status
    | some job =>
      if ← awaitJob true job.number forever then
        modify (·.alterJob job.number fun job => { job with isKnown := true })
        awaitEach rest (((← get).job? job.number).elim 0 Job.status)
      else interruptedStatus

def runWait (arguments : List Raw) : Running Nat := do
  match ← withoutLetters arguments with
  | [] => awaitAll forever
  | rest => awaitEach rest 127

def endingWords : Host.ExitStatus → Raw
  | .code 0 => "Done".toList
  | .code code => "Done(".toList ++ Raw.ofNat code ++ [')']
  | .signal signal => (Signal.description signal).toList

/-- The column in front of which what is told about a job ends. -/
def jobColumn : Nat := 33

/-- What is told about a job that is at a place among others. -/
def Job.lines (job : Job) (place : Nat) (withNumbers : Bool) : Raw :=
  let mark := if place = 0 then '+' else if place = 1 then '-' else ' '
  let start := '[' :: Raw.ofNat job.number ++ "] ".toList ++ [mark, ' ']
  let process (member : Nat × Option Host.ExitStatus) : Raw := Raw.ofNat member.1 ++ [' ']
  let words := match job.isDone, job.members.getLast? with
    | true, some (_, some status) => endingWords status
    | _, _ => "Running".toList
  let numbered := match job.members with
    | member :: _ => if withNumbers then process member else []
    | [] => []
  let first := start ++ numbered ++ words
  let pad (column : Nat) : Raw := List.replicate (max 1 (jobColumn - column)) ' '
  let others := job.members.tail.flatMap fun member =>
    if withNumbers then
      let line := List.replicate start.length ' ' ++ process member
      " |\n".toList ++ line ++ pad line.length
    else " | ".toList
  first ++ pad first.length ++ others ++ ['\n']

/-- Tells about a job, which is forgotten if it has ended. -/
def showJob (withNumbers onlyNumbers : Bool) (job : Job) : Running Unit := do
  if onlyNumbers then printLine (Raw.ofNat ((job.members.head?).elim 0 (·.1)))
  else
    let place := (← get).jobs.findIdx (·.number = job.number)
    print (job.lines place withNumbers)
    if job.isDone then modify (·.dropJob job.number)

def runJobs (arguments : List Raw) : Running Nat := do
  let (letters, rest) ← takeLetters (plainLetters "lp") arguments
  let has (letter : Char) : Bool := letters.any (·.1 = letter)
  let tell := showJob (has 'l') (has 'p')
  if rest.isEmpty then
    noteAll forever
    Running.each tell (← get).jobs
  else
    Running.each (fun text => do tell (← findJob false (some text))) rest
  return 0

/-- `fg` and `bg`, for which there is no job. -/
def runControl (arguments : List Raw) : Running Nat := do
  let rest ← withoutLetters arguments
  let _ ← findJob true rest.head?
  return 0

end WheelInstaller.Shell
