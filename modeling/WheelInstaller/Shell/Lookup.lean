import WheelInstaller.Process.Host
import WheelInstaller.Shell.Grammar
import WheelInstaller.Shell.Syntax
import WheelInstaller.Shell.Running

/-! What the names of commands stand for: functions, commands of the shell, and programs, whose places
are remembered once they are known. -/

namespace WheelInstaller.Shell

open Process Running

/-- The commands of the shell besides those with special names. -/
def ordinaryNames : List String :=
  ["[", "alias", "bg", "cd", "chdir", "command", "echo", "false", "fg", "getopts", "hash", "jobs",
   "kill", "printf", "pwd", "read", "test", "true", "type", "ulimit", "umask", "unalias", "wait"]

/-- The commands of the shell whose arguments can be assignments. -/
def declarationNames : List String :=
  ["alias", "export", "local", "readonly"]

/-- What the name of a command stands for. -/
inductive Meaning where
  | function (value : Function)
  | builtin (name : String)
  /-- A program, with its place among the directories that are searched if it was searched for. -/
  | program (place : Option Nat)
  | unknown

/-- Where programs are looked for, unless there is a word on that. -/
def standardPath : Raw := Process.searchPath

/-- The first file of several paths, with its place, after `place` others. If there is none, tells
whether there was something else, or another cause. -/
def searchFrom : (place : Nat) → (error : OsError) → List Raw → Running (Except OsError Nat)
  | _, error, [] => return .error error
  | place, error, path :: rest => do
    match ← ask (.status ⟨Raw.toString path⟩ true) with
    | .ok status =>
      if status.kind = .file then return .ok place else searchFrom (place + 1) .accessDenied rest
    | .error found =>
      searchFrom (place + 1) (if Process.leadsNowhere found then error else found) rest

/-- The paths at which a program may be found. -/
def candidates (path name : Raw) : List Raw :=
  (Raw.split ':' path).map fun directory =>
    if directory.isEmpty then name
    else if directory.getLast? = some '/' then directory ++ name
    else directory ++ '/' :: name

/-- Looks for a program, and remembers its place if the usual directories are searched. -/
def findProgram (path : Option Raw) (name : Raw) : Running (Except OsError Nat) := do
  let state ← get
  match if path.isNone then state.tracked.find? (·.1 = name) else none with
  | some (_, place) => return .ok place
  | none =>
    let found ← searchFrom 0 .notFound (candidates (path.getD state.searchPath) name)
    match found, path with
    | .ok place, none =>
      modify fun state => { state with tracked := state.tracked ++ [(name, place)] }
    | _, _ => pure ()
    return found

/-- The command of the shell with a name, or the function. -/
def State.meaning? (state : State) (functions : Bool) (name : Raw) : Option Meaning :=
  if name.contains '/' then none
  else
    match if functions then state.function? name else none with
    | some value => some (.function value)
    | none =>
      let text := String.ofList name
      if specialNames.contains text || ordinaryNames.contains text then some (.builtin text)
      else none

/-- Looks for the meaning of a name, and tells why it has none. -/
def findMeaning (functions : Bool) (path : Option Raw) (name : Raw) :
    Running (Except OsError Meaning) := do
  match (← get).meaning? functions name with
  | some meaning => return .ok meaning
  | none =>
    if name.contains '/' then return .ok (.program none)
    else
      match ← findProgram path name with
      | .ok place => return .ok (.program (some place))
      | .error error => return .error error

/-- The statuses for programs that could not be started. -/
def startStatus (error : OsError) : Nat :=
  match error with
  | .notFound | .notDirectory | .tooManyLinks | .nameTooLong => 127
  | _ => 126

/-- The shell, by which scripts are run that name no interpreter. -/
def interpreter : Raw := "/bin/sh".toList

/-- Becomes the program at a path, or lets the shell run it as a script. Tells why that was not
possible. -/
def tryProgram (path name : Raw) (arguments : List Raw) : Running OsError := do
  let environment := (← get).environment
  let error : OsError ← ask (.execute ⟨Raw.toString path⟩ name arguments environment)
  if error = .notExecutable then
    ask (.execute ⟨Raw.toString interpreter⟩ interpreter (path :: arguments) environment)
  else return error

/-- Becomes the first program of several paths that can be run. -/
def tryEach (name : Raw) (arguments : List Raw) : (error : OsError) → List Raw → Running OsError
  | error, [] => return error
  | error, path :: rest => do
    let found ← tryProgram path name arguments
    tryEach name arguments (if Process.leadsNowhere found then error else found) rest

/-- Becomes a program, or complains and leaves the script. -/
def becomeProgram {α : Type} (path : Option Raw) (place : Nat) (name : Raw)
    (arguments : List Raw) : Running α := do
  let error ←
    if name.contains '/' then tryProgram name name arguments
    else
      tryEach name arguments .notFound
        ((candidates (path.getD (← get).searchPath) name).drop place)
  setStatus (startStatus error)
  complain (name ++ ": ".toList ++ reasonFor "not found" error)
  leave .ended

/-- How many groups there are in which remembered programs are told. -/
def trackedGroups : Nat := 31

def trackedGroup (name : Raw) : Nat :=
  (name.foldl (fun total c => total + c.toNat) ((name.headD '\x00').toNat * 16)) % trackedGroups

def State.pathAt (state : State) (path : Option Raw) (place : Nat) (name : Raw) : Raw :=
  ((candidates (path.getD state.searchPath) name)[place]?).getD name

/-- What is told about a name: a line or none, and the status. -/
def describe (isLong : Bool) (path : Option Raw) (name : Raw) : Running (Raw × Nat) := do
  let state ← get
  let tell (long brief : Raw) : Raw × Nat := ((if isLong then name ++ long else brief) ++ ['\n'], 0)
  if keywords.contains (String.ofList name) then
    return tell " is a shell keyword".toList name
  match state.aliases.find? (·.name = name) with
  | some entry =>
    let shown := "alias ".toList ++ entry.name ++ '=' :: quoteValue entry.value
    return tell (" is an alias for ".toList ++ entry.value) shown
  | none =>
    let isTracked := path.isNone && state.tracked.any (·.1 = name)
    match ← findMeaning true path name with
    | .error _ => return (if isLong then name ++ ": not found\n".toList else [], 127)
    | .ok .unknown => return ([], 127)
    | .ok (.function _) => return tell " is a shell function".toList name
    | .ok (.builtin text) =>
      let special := if specialNames.contains text then "special " else ""
      return tell (" is a ".toList ++ special.toList ++ "shell builtin".toList) name
    | .ok (.program none) =>
      match ← ask (.status ⟨Raw.toString name⟩ true) with
      | .ok _ => return tell (" is ".toList ++ name) name
      | .error _ => return (if isLong then name ++ ": not found\n".toList else [], 127)
    | .ok (.program (some place)) =>
      let found := state.pathAt path place name
      let known := if isTracked then " is a tracked alias for " else " is "
      return tell (known.toList ++ found) found

end WheelInstaller.Shell
