import WheelInstaller.Host.Error
import WheelInstaller.Process.Storage

/-! What processes do. A process is the tree of what it asks the system for, with one branch for every
answer; that it may have to wait for an answer does not show in it. -/

namespace WheelInstaller.Process

/-- What can be at a place, apart from its content. -/
inductive Kind where
  | file
  | directory
  | link
  | device
  | pipe
deriving DecidableEq, Repr

/-- What is known about something in a file system. -/
structure Status where
  kind : Kind
  mode : Nat
  size : Nat := 0
  /-- Where it is really: the same for all names of one file. -/
  identity : Stream
  /-- How many names it has. -/
  names : Nat := 1
  /-- When it was changed last, by the clock of the system. -/
  modified : Nat := 0

inductive Reaction where
  /-- What is usual for the signal. -/
  | usual
  | ignored
  /-- It takes note, and looks at its notes when it wants to. -/
  | noted
deriving DecidableEq, Repr

inductive Awaited where
  /-- There are no such children. -/
  | nobody
  /-- There are, but none has ended. -/
  | notYet
  | ended (number : Nat) (status : Host.ExitStatus)
  /-- A signal was noted meanwhile. -/
  | interrupted
deriving DecidableEq, Repr

/-- The names and values that a program is told. -/
abbrev Environment := List (Raw × Raw)

inductive Request where
  /-- At most so many bytes, and none after the first one that stops. -/
  | read (descriptor limit : Nat) (stop : Option UInt8)
  | write (descriptor : Nat) (bytes : ByteArray)
  /-- A descriptor for a file; `mode` is for a new one. -/
  | open (path : Path) (purpose : Purpose) (mode : Nat)
  | close (descriptor : Nat)
  /-- A further descriptor, not below a given one, that programs do not get. -/
  | duplicate (descriptor least : Nat)
  /-- To let one descriptor lead where another one does. -/
  | redirect (source target : Nat)
  /-- Descriptors of the two ends of a new pipe. -/
  | pipe
  /-- To go back by so many bytes. -/
  | rewind (descriptor count : Nat)
  /-- What a descriptor leads to, and the position there. -/
  | describe (descriptor : Nat)
  | status (path : Path) (follow : Bool)
  /-- The names in a directory, in order. -/
  | list (path : Path)
  | readLink (path : Path)
  /-- `mode` are the permissions. -/
  | makeDirectory (path : Path) (mode : Nat)
  | remove (path : Path)
  | removeDirectory (path : Path)
  | rename (source target : Path)
  | link (source target : Path)
  | makeLink (path target : Path)
  | setMode (path : Path) (mode : Nat)
  /-- To say when something was changed last, or that it is now. -/
  | setTime (path : Path) (follow : Bool) (time : Option Nat)
  /-- The path of the current directory. -/
  | currentDirectory
  | enter (path : Path)
  /-- The permissions that new files do not get, which may be changed. -/
  | mask (new : Option Nat)
  /-- The numbers of the process and its parent. -/
  | numbers
  /-- The end of a child, or of any; to wait for it or not; up to a noted signal or not. -/
  | await (child : Option Nat) (waits interruptible : Bool)
  | kill (target : Int) (signal : Nat)
  /-- What was done about a signal until now, which may be changed. -/
  | react (signal : Nat) (new : Option Reaction)
  /-- The signals that were noted since it was asked last. -/
  | poll
  /-- To be left alone for so many microseconds. -/
  | sleep (duration : Nat)
  /-- To become another program, which is answered only if it is not possible. -/
  | execute (path : Path) (name : Raw) (arguments : List Raw) (environment : Environment)

def Request.Answer : Request → Type
  | .read _ _ _ => Except OsError ByteArray
  | .open _ _ _ | .duplicate _ _ => Except OsError Nat
  | .pipe | .numbers => Nat × Nat
  | .describe _ => Except OsError (Status × Nat)
  | .status _ _ => Except OsError Status
  | .list _ => Except OsError (List Raw)
  | .readLink _ => Except OsError Raw
  | .currentDirectory => Raw
  | .mask _ => Nat
  | .await _ _ _ => Awaited
  | .react _ _ => Reaction
  | .poll => List Nat
  | .sleep _ => Unit
  | .execute _ _ _ _ => OsError
  | .write _ _ | .close _ | .redirect _ _ | .rewind _ _ | .makeDirectory _ _ | .remove _
  | .removeDirectory _ | .rename _ _ | .link _ _ | .makeLink _ _ | .setMode _ _ | .setTime _ _ _
  | .enter _ | .kill _ _ => Except OsError Unit

/-- The process is over, or asks for something and goes on with the answer, or there are two of it
from now on, of which one gets to know the number of the other. -/
inductive Activity where
  | ended (status : Nat)
  | ask (request : Request) (next : request.Answer → Activity)
  | fork (child : Activity) (next : Nat → Activity)

/-- A part of what a process does, given what it does after that. -/
def Work (α : Type) : Type :=
  (α → Activity) → Activity

namespace Work

instance : Monad Work where
  pure value := fun next => next value
  bind work rest := fun next => work fun value => rest value next

def ask (request : Request) : Work request.Answer :=
  fun next => .ask request next

def exit {α : Type} (status : Nat) : Work α :=
  fun _ => .ended status

/-- The whole of a process whose status the work tells. -/
def activity (work : Work Nat) : Activity :=
  work .ended

end Work

/-- How a program is called: the name it goes by, its arguments and its environment. -/
structure Invocation where
  name : Raw
  arguments : List Raw
  environment : Environment

/-- A number of rounds that no process lives to see the end of. -/
def forever : Nat := 0x1000000000000

end WheelInstaller.Process

/-! Signals: their names, and what they usually do to a process. Number zero is no signal; where
commands take it, it stands for the end of a script. -/

namespace WheelInstaller.Process.Signal

def greatest : Nat := 64

/-- The largest number whose signal has a name of its own. -/
def greatestNamed : Nat := 31

/-- The smallest number of a signal without a fixed meaning. -/
def leastFree : Nat := 34

def isNameless (number : Nat) : Bool :=
  number = 16 || (greatestNamed < number && number < leastFree)

def word (number : Nat) : Raw :=
  if number = 0 then "EXIT".toList
  else if isNameless number then Raw.ofNat number
  else if number ≤ greatestNamed then
    ((Host.signalNames[number - 1]?).getD "").toList.drop "SIG".length
  else if number = leastFree then "RTMIN".toList
  else if number < 50 then "RTMIN+".toList ++ Raw.ofNat (number - leastFree)
  else if number < greatest then "RTMAX-".toList ++ Raw.ofNat (greatest - number)
  else "RTMAX".toList

def child : Nat := 17

/-- The signal about a pipe that nobody reads. -/
def pipe : Nat := 13

/-- Signals that usually change nothing. -/
def isHarmless (number : Nat) : Bool :=
  [0, child, 18, 23, 28].contains number

/-- Signals that nobody can do anything about. -/
def isCompelling (number : Nat) : Bool :=
  number = 9 || number = 19

def description (number : Nat) : String :=
  match number with
  | 1 => "Hangup"
  | 2 => "Interrupt"
  | 3 => "Quit"
  | 4 => "Illegal instruction"
  | 5 => "Trace/breakpoint trap"
  | 6 => "Aborted"
  | 7 => "Bus error"
  | 8 => "Floating point exception"
  | 9 => "Killed"
  | 10 => "User defined signal 1"
  | 11 => "Segmentation fault"
  | 12 => "User defined signal 2"
  | 13 => "Broken pipe"
  | 14 => "Alarm clock"
  | 15 => "Terminated"
  | 16 => "Stack fault"
  | 24 => "CPU time limit exceeded"
  | 25 => "File size limit exceeded"
  | 26 => "Virtual timer expired"
  | 27 => "Profiling timer expired"
  | 29 => "I/O possible"
  | 30 => "Power failure"
  | 31 => "Bad system call"
  | number =>
    if leastFree ≤ number && number ≤ greatest then s!"Real-time signal {number - leastFree}"
    else s!"Unknown signal {number}"

end WheelInstaller.Process.Signal
