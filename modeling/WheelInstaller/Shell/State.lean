import Std.Data.TreeMap
import WheelInstaller.Process.Activity
import WheelInstaller.Shell.Source

/-! What a running script remembers. -/

namespace WheelInstaller.Shell

open Process

/-- The ways of running that can be switched on and off. -/
inductive Setting where
  | errexit
  | noglob
  | ignoreeof
  | interactive
  | monitor
  | noexec
  | stdin
  | xtrace
  | verbose
  | vi
  | emacs
  | noclobber
  | allexport
  | notify
  | nounset
  | privileged
  | nolog
  | debug
deriving DecidableEq, Repr

/-- The settings with their names and letters, if they have one. -/
def Setting.all : List (Setting × String × Option Char) := [
  (.errexit, "errexit", some 'e'),
  (.noglob, "noglob", some 'f'),
  (.ignoreeof, "ignoreeof", some 'I'),
  (.interactive, "interactive", some 'i'),
  (.monitor, "monitor", some 'm'),
  (.noexec, "noexec", some 'n'),
  (.stdin, "stdin", some 's'),
  (.xtrace, "xtrace", some 'x'),
  (.verbose, "verbose", some 'v'),
  (.vi, "vi", some 'V'),
  (.emacs, "emacs", some 'E'),
  (.noclobber, "noclobber", some 'C'),
  (.allexport, "allexport", some 'a'),
  (.notify, "notify", some 'b'),
  (.nounset, "nounset", some 'u'),
  (.privileged, "privileged", some 'p'),
  (.nolog, "nolog", none),
  (.debug, "debug", none)]

structure Binding where
  name : Raw
  value : Option Raw := none
  /-- Programs are told. -/
  exported : Bool := false
  /-- The value stays. -/
  fixed : Bool := false
  /-- The binding stays, even without a value. -/
  lasting : Bool := false
deriving DecidableEq, Repr

/-- What a name or the settings were before they were changed for a while. -/
inductive Kept where
  | settings (on : List Setting)
  /-- There was no such name. -/
  | absent (name : Raw)
  | binding (old : Binding)

structure Function where
  name : Raw
  body : Command

/-- Processes that belong together. -/
structure Job where
  number : Nat
  /-- The processes, and how they have ended. -/
  members : List (Nat × Option Host.ExitStatus) := []
  /-- The script knows that it has ended. -/
  isKnown : Bool := false

def Job.isDone (job : Job) : Bool :=
  job.members.all (·.2.isSome)

/-- How a script goes on elsewhere than at its next command. -/
inductive Skip where
  | nothing
  /-- Past the end of so many loops. -/
  | leave (loops : Nat)
  /-- To the next round of the last of so many loops. -/
  | again (loops : Nat)
  /-- Past the end of a function, with a status of its own or not. -/
  | back (hasStatus : Bool)
deriving DecidableEq, Repr

/-- Why a script is left. -/
inductive Jump where
  | failure
  /-- It was told to. -/
  | exit
  | ended
deriving DecidableEq, Repr

/-- What a running script remembers. -/
structure State where
  name : Raw
  /-- The command that speaks in complaints. -/
  speaker : Option Raw := none
  line : Nat := 0
  /-- The line up to which the script was read. -/
  reached : Nat := 0
  /-- The token at which reading has stopped, if it is to be taken again. -/
  leftover : Option Token := none
  status : Nat := 0
  /-- The status before a trap, or the one to exit with. -/
  savedStatus : Option Nat := none
  /-- The status of the last script inside a word. -/
  innerStatus : Nat := 0
  skip : Skip := .nothing
  loops : Nat := 0
  /-- How many functions are running. -/
  calls : Nat := 0
  settings : List Setting := []
  arguments : List Raw := []
  /-- Which of the arguments `getopts` looks at next. -/
  optionIndex : Nat := 1
  /-- How much of the argument before that was looked at already. -/
  optionOffset : Option Nat := none
  bindings : List Binding := []
  /-- What names were before commands and functions changed them, the latest first. -/
  kept : List (List Kept) := []
  functions : List Function := []
  aliases : List Alias := []
  /-- The places of programs among the directories that are searched. -/
  tracked : List (Raw × Nat) := []
  documents : Std.TreeMap Nat Word := {}
  nextDocument : Nat := 0
  /-- Descriptors before redirections, with where they are kept if they led anywhere; the latest
  redirections first. -/
  descriptors : List (List (Nat × Option Nat)) := []
  /-- The latest job comes first. -/
  jobs : List Job := []
  /-- The process that was put in the background last. -/
  background : Option Nat := none
  /-- What is done about signals. Zero stands for the end of the script. -/
  traps : List (Nat × Raw) := []
  /-- Signals that were ignored from the start. -/
  deaf : List Nat := []
  /-- Signals about which the script has said something. -/
  handled : List Nat := []
  /-- Signals that are to be answered. -/
  pending : List Nat := []
  /-- How much there may be of things, where that was changed: by their letters, the bounds that can be
  passed and those that cannot. -/
  bounds : List ((Char × Bool) × Raw) := []
  /-- The number of the process that runs the script. -/
  own : Nat := 0
  parent : Nat := 0
  /-- This is a part of the script that runs on its own. -/
  isApart : Bool := false
  /-- The current directory, by the way it was entered. -/
  directory : Raw := []
  /-- The same directory without links on the way, if that is known. -/
  physical : Option Raw := none
  /-- What is to be printed, the latest first. -/
  printed : List Raw := []
  /-- The descriptor at which commands are shown. -/
  traceOutput : Nat := 2
  /-- The text in front of a command that is shown is being made. -/
  isTracing : Bool := false

namespace State

def has (state : State) (setting : Setting) : Bool :=
  state.settings.contains setting

def setSetting (state : State) (setting : Setting) (on : Bool) : State :=
  let others := state.settings.filter (· ≠ setting)
  { state with settings := if on then setting :: others else others }

def letters (state : State) : Raw :=
  (Setting.all.reverse.filter fun (setting, _) => state.has setting).filterMap (·.2.2)

def binding? (state : State) (name : Raw) : Option Binding :=
  state.bindings.find? (·.name = name)

def value? (state : State) (name : Raw) : Option Raw :=
  (state.binding? name).bind (·.value)

def setBinding (state : State) (binding : Binding) : State :=
  let rec replace : List Binding → List Binding
    | [] => [binding]
    | known :: rest => if known.name = binding.name then binding :: rest else known :: replace rest
  { state with bindings := replace state.bindings }

def dropBinding (state : State) (name : Raw) : State :=
  { state with bindings := state.bindings.filter (·.name ≠ name) }

/-- What else changes with the value of a name. -/
def react (state : State) (name : Raw) (value : Option Raw) : State :=
  match name with
  | ['P', 'A', 'T', 'H'] => { state with tracked := [] }
  | ['O', 'P', 'T', 'I', 'N', 'D'] =>
    let text := (value.getD []).dropWhile fun c => Raw.isSpace c || c = '+'
    let index := Raw.digitsValue (text.takeWhile Char.isDigit)
    { state with optionIndex := if index = 0 then 1 else index, optionOffset := none }
  | _ => state

/-- The value of a name stays. -/
def isFixed (state : State) (name : Raw) : Bool :=
  state.bindings.any fun binding => binding.name = name && binding.fixed

/-- Gives a name whose value does not stay a value, or takes it away, and marks it. -/
def bind (state : State) (marks : Binding) : State :=
  let marks := if state.has .allexport then { marks with exported := true } else marks
  let vanishes := marks.value.isNone && !marks.exported && !marks.fixed && !marks.lasting
  match state.binding? marks.name with
  | some known =>
    let state := state.react marks.name marks.value
    if vanishes && !known.lasting then state.dropBinding marks.name
    else
      state.setBinding { marks with
        exported := marks.exported || known.exported
        lasting := marks.lasting || known.lasting }
  | none => if vanishes then state else state.setBinding marks

/-- The characters that separate fields, unless there is no word on that. -/
def separators? (state : State) : Option Raw :=
  state.value? "IFS".toList

def function? (state : State) (name : Raw) : Option Function :=
  state.functions.find? (·.name = name)

def trap? (state : State) (signal : Nat) : Option Raw :=
  (state.traps.find? (·.1 = signal)).map (·.2)

/-- The state with something else to be done about a signal. -/
def setTrap (state : State) (signal : Nat) (action : Option Raw) : State :=
  let others := state.traps.filter (·.1 ≠ signal)
  { state with traps := (action.map fun action => (signal, action)).toList ++ others }

/-- Something is to be done about some signal. -/
def hasTraps (state : State) : Bool :=
  state.traps.any (!·.2.isEmpty)

/-- How many groups there are, in each of which names are told in the order they came up. -/
def groups : Nat := 39

def group (name : Raw) : Nat :=
  (name.foldl (fun total c => total + c.toNat) ((name.headD '\x00').toNat * 16)) % groups

def environment (state : State) : Environment :=
  let known := state.bindings.filterMap fun binding =>
    if binding.exported then binding.value.map fun value => (binding.name, value) else none
  (List.range groups).flatMap fun number => known.filter fun (name, _) => group name = number

def searchPath (state : State) : Raw :=
  (state.value? "PATH".toList).getD []

def addJob (state : State) : Nat × State :=
  let jobs := state.jobs
  let isFree (number : Nat) : Bool :=
    jobs.all fun job => job.number ≠ number || (job.isDone && job.isKnown)
  let number := ((List.range (jobs.length + 1)).map (· + 1)).find? isFree |>.getD 1
  (number, { state with jobs := { number } :: jobs.filter (·.number ≠ number) })

def alterJob (state : State) (number : Nat) (change : Job → Job) : State :=
  { state with
    jobs := state.jobs.map fun job => if job.number = number then change job else job }

def dropJob (state : State) (number : Nat) : State :=
  { state with jobs := state.jobs.filter (·.number ≠ number) }

def noteEnd (state : State) (process : Nat) (status : Host.ExitStatus) : State :=
  { state with
    jobs := state.jobs.map fun job =>
      { job with
        members := job.members.map fun (number, known) =>
          if number = process then (number, some status) else (number, known) } }

end State
end WheelInstaller.Shell
