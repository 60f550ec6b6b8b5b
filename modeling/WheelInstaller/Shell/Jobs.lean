import WheelInstaller.Process.Activity
import WheelInstaller.Shell.Running
import WheelInstaller.Shell.Syntax

/-! Jobs, which are the processes that a script has started, and signals: what a script does about them,
and how it sends them. -/

namespace WheelInstaller.Shell

open Process Running

/-! ### Jobs -/

/-- The status of a script for the end of a process. -/
def statusOf : Host.ExitStatus → Nat
  | .code code => code
  | .signal number => number + 128

/-- Signals whose effect on a process is not told. -/
def isSilent (signal : Nat) : Bool :=
  signal = 2 || signal = Signal.pipe

def Job.status (job : Job) : Nat :=
  match job.members.getLast? with
  | some (_, some status) => statusOf status
  | _ => 0

def State.job? (state : State) (number : Nat) : Option Job :=
  state.jobs.find? (·.number = number)

/-- Takes note of the end of a process. If it belongs to the job that is waited for, a signal is told. -/
def noteEnd (awaited : Option Nat) (process : Nat) (status : Host.ExitStatus) : Running Unit := do
  let state ← get
  let isAwaited := awaited.any fun number =>
    (state.job? number).any fun job =>
      !job.isDone && job.members.any (·.1 = process)
  modify (·.noteEnd process status)
  match isAwaited, status with
  | true, .signal signal =>
    if !isSilent signal then write 2 ((Signal.description signal).toList ++ ['\n'])
  | _, _ => return ()

/-- Waits until a job has ended. Tells whether it has, and no signal came in between. -/
def awaitJob (interruptible : Bool) (number : Nat) : (rounds : Nat) → Running Bool
  | 0 => return true
  | rounds + 1 => do
    if ((← get).job? number).all Job.isDone then return true
    else
      match ← ask (.await none true interruptible) with
      | .ended process status =>
        noteEnd (some number) process status
        awaitJob interruptible number rounds
      | .interrupted => return false
      | .nobody | .notYet => return true

/-- Waits for a job in the foreground, and tells its status. -/
def finishJob (number : Nat) : Running Nat := do
  let _ ← awaitJob false number forever
  let status := ((← get).job? number).elim 0 Job.status
  modify (·.dropJob number)
  return status

def makeJob : Running Nat := do
  let (number, state) := (← get).addJob
  modify fun _ => state
  return number

def joinJob (number process : Nat) : Running Unit :=
  modify fun state =>
    state.alterJob number fun job => { job with members := job.members ++ [(process, none)] }

/-- Takes note of all processes that have ended until now. -/
def noteAll : (rounds : Nat) → Running Unit
  | 0 => return ()
  | rounds + 1 => do
    match ← ask (.await none false false) with
    | .ended process status =>
      noteEnd none process status
      noteAll rounds
    | _ => return ()

/-- The job that a text means, or the latest one. There is no control over jobs. -/
def findJob (controls : Bool) (text : Option Raw) : Running Job := do
  let state ← get
  let found (job : Option Job) (complaint : Raw) : Running Job := do
    match job with
    | none => fail complaint
    | some job =>
      if controls then
        fail ("job ".toList ++ text.getD "(null)".toList ++
          " not created under job control".toList)
      else return job
  let unknown := "No such job: ".toList ++ text.getD []
  match text with
  | none | some ['%'] | some ['%', '+'] | some ['%', '%'] =>
    found state.jobs.head? "No current job".toList
  | some ['%', '-'] => found state.jobs.tail.head? "No previous job".toList
  | some ('%' :: name) =>
    match name with
    | ['?'] =>
      if state.jobs.length < 2 then found state.jobs.head? unknown
      else fail (text.getD [] ++ ": ambiguous".toList)
    | name => found (if name.all Char.isDigit then state.job? (Raw.digitsValue name) else none) unknown
  | some _ => fail unknown

/-! ### Signals -/

def signalNumber? (text : Raw) : Option Nat :=
  if text.isEmpty || !text.all Char.isDigit then none
  else
    let number := Raw.digitsValue text
    if number ≤ Signal.greatest then some number else none

/-- The signal that a number or a name means. Names count from `least` on, in any case of their
letters. -/
def signalOf? (least : Nat) (text : Raw) : Option Nat :=
  match signalNumber? text with
  | some number => some number
  | none =>
    let upper := text.map Char.toUpper
    (List.range (Signal.greatest + 1)).find? fun number =>
      least ≤ number && Signal.word number = upper

/-- What the process does about a signal, given what the script does. -/
def reactionTo : Option Raw → Reaction
  | none => .usual
  | some [] => .ignored
  | some _ => .noted

/-- Lets the process react to a signal as the script wants, unless the signal was ignored from the
start. -/
def applyTrap (signal : Nat) : Running Unit := do
  let state ← get
  if !state.handled.contains signal then
    let before : Reaction ← ask (.react signal none)
    modify fun state =>
      { state with
        handled := signal :: state.handled
        deaf := if before = .ignored then signal :: state.deaf else state.deaf }
  let state ← get
  if !state.deaf.contains signal then
    let _ ← ask (.react signal (some (reactionTo (state.trap? signal))))

/-- Sets what is to be done about signals, and tells the status. -/
def trapEach (action : Option Raw) : List Raw → Running Nat
  | [] => return 0
  | text :: rest => do
    match signalOf? 0 text with
    | none =>
      write 2 ("trap: ".toList ++ text ++ ": bad trap\n".toList)
      return 1
    | some signal =>
      modify (·.setTrap signal action)
      if signal ≠ 0 then applyTrap signal
      trapEach action rest

def runTrap (arguments : List Raw) : Running Nat := do
  match ← withoutLetters arguments with
  | [] =>
    let state ← get
    let line (signal : Nat) : Raw :=
      match state.trap? signal with
      | some action =>
        "trap -- ".toList ++ quoteValue action ++ ' ' :: Signal.word signal ++ ['\n']
      | none => []
    print ((List.range (Signal.greatest + 1)).flatMap line)
    return 0
  | [text] => trapEach none [text]
  | action :: rest =>
    if (signalNumber? action).isSome then trapEach none (action :: rest)
    else trapEach (if action = ['-'] then none else some action) rest

/-- Takes away what is to be done about signals, except to ignore them. -/
def dropTraps : List (Nat × Raw) → Running Unit
  | [] => return ()
  | (signal, action) :: rest => do
    if !action.isEmpty then
      modify (·.setTrap signal none)
      if signal ≠ 0 then applyTrap signal
    dropTraps rest

def ignoreSignal (signal : Nat) : Running Unit := do
  let _ ← ask (.react signal (some .ignored))
  modify fun state =>
    { state with handled := signal :: state.handled, deaf := signal :: state.deaf }

/-- How `kill` is used. -/
def killUsage : Raw :=
  ("Usage: kill [-s sigspec | -signum | -sigspec] [pid | job]... or\n" ++
    "kill -l [exitstatus]").toList

/-- The last signal that options name, and whether names are to be told. -/
def killOptions : List (Char × Raw) → (signal : Option Nat) → (lists : Bool) →
    Running (Option Nat × Bool)
  | [], signal, lists => return (signal, lists)
  | ('l', _) :: rest, signal, _ => killOptions rest signal true
  | (_, text) :: rest, _, lists => do
    match signalOf? 1 text with
    | some signal => killOptions rest (some signal) lists
    | none => fail ("invalid signal number or name: ".toList ++ text)

/-- Tells the names of all signals, or of the one that a number or status is about. -/
def listSignals : List Raw → Running Unit
  | [] => do
    let names := (List.range Signal.greatest).flatMap fun number =>
      Signal.word (number + 1) ++ ['\n']
    print (['0', '\n'] ++ names)
  | text :: _ => do
    let given ← number text
    let signal := if 128 < given then given - 128 else given
    if 0 < signal && signal ≤ Signal.greatest then printLine (Signal.word signal)
    else fail ("invalid signal number or exit status: ".toList ++ text)

/-- The signal that is sent if none is named. -/
def usualSignal : Nat := 15

/-- Sends a signal to processes, and tells the status so far. -/
def killEach (signal : Nat) : List Raw → (status : Nat) → Running Nat
  | [], status => return status
  | text :: rest, status => do
    let target : Int ← match text with
      | '%' :: _ =>
        let job ← findJob false (some text)
        pure (-(((job.members.head?).map (·.1)).getD 0 : Int))
      | '-' :: digits => do pure (-((← number digits) : Int))
      | text => do pure ((← number text) : Int)
    match ← ask (.kill target signal) with
    | .ok () => killEach signal rest status
    | .error error =>
      complain (error.reason.toList ++ ['\n'])
      killEach signal rest 1

def runKill (arguments : List Raw) : Running Nat := do
  let first := arguments.headD []
  let direct := if first.head? = some '-' then signalOf? 1 first.tail else none
  let (signal, lists, rest) ← match direct with
    | some signal => pure (some signal, false, arguments.tail)
    | none =>
      let (letters, rest) ← takeLetters [('l', false), ('s', true)] arguments
      let (signal, lists) ← killOptions letters none false
      pure (signal, lists, rest)
  if arguments.isEmpty then fail killUsage
  else if lists then
    if signal.isSome && !rest.isEmpty then fail killUsage
    listSignals rest
    return 0
  else if rest.isEmpty then fail killUsage
  else killEach (signal.getD usualSignal) rest 0

end WheelInstaller.Shell
