import WheelInstaller.Process.Table

/-! How processes take turns. One process runs until it has to wait, has ended, or has had its share;
then it is the turn of the next. Time passes with everything that is done, and when all processes wait,
the clock is set to when the first of them wakes up. -/

namespace WheelInstaller.Process.Table

/-- How much a process may ask for before it is the turn of others. -/
def share : Nat := 256

def forkTime : Nat := 200

/-- How long it takes to become a program. -/
def loadTime : Nat := 500

def elapse (table : Table) (duration : Nat) : Table :=
  { table with clock := table.clock + duration }

def queue (table : Table) (process : Process) (activity : Activity) : Table :=
  { table with others := table.others ++ [{ process with phase := .active activity }] }

/-- Runs a process up to the end of its share, and tells whether it did anything. -/
def advance : (share : Nat) → (acted : Bool) → Activity → Process → Table → Bool × Table
  | 0, acted, activity, process, table => (acted, table.queue process activity)
  | _ + 1, _, .ended status, process, table => (true, table.bury process (.code (status % 256)))
  | share + 1, _, .fork child next, process, table =>
    let (number, table) := table.spawn process child
    advance share true (next number) process (table.elapse forkTime)
  | share + 1, acted, .ask request next, process, table =>
    match table.perform process request with
    | .answered value process table =>
      advance share true (next value) process (table.elapse 1)
    | .waits process table => (acted, table.queue process (.ask request next))
    | .killed signal process table => (true, table.bury process (.signal signal))
    | .becomes activity process table =>
      advance share true activity process (table.elapse loadTime)

/-- When the first of the sleeping processes wakes up. -/
def alarm? (table : Table) : Option Nat :=
  (table.others.filterMap (·.wakes)).min?

/-- The first process has ended, and nobody can write anything more for its starter. -/
def isSettled (table : Table) : Bool :=
  table.outcome.isSome && table.storage.opened.all fun _ opened =>
    opened.stream ≠ .output && opened.stream ≠ .complaints

/-- Lets processes take turns, `idle` of which in a row had nothing to do. -/
def run : (turns idle : Nat) → Table → Table
  | 0, _, table => table
  | turns + 1, idle, table =>
    if table.isSettled then table
    else
      match table.others with
      | [] => table
      | process :: rest =>
        let table := { table with others := rest }
        match process.phase with
        | .ended _ => run turns (idle + 1) { table with others := rest ++ [process] }
        | .active activity =>
          match advance share false activity process table with
          | (true, table) => run turns 0 table
          | (false, table) =>
            if idle < table.others.length then run turns (idle + 1) table
            else
              -- All of them wait, so time passes until the first one wakes up.
              match table.alarm? with
              | some time => run turns 0 { table with clock := max table.clock time }
              | none => table

end WheelInstaller.Process.Table

/-! Running a program on a host: the first process of a system, and what its starter gets to see. -/

namespace WheelInstaller.Process

/-- What a program leaves when it has ended. -/
structure Completed where
  status : Host.ExitStatus
  output : ByteArray
  complaints : ByteArray

/-- Where programs are found by name. -/
def searchPath : Raw := "/usr/local/sbin:/usr/local/bin:/usr/sbin:/usr/bin:/sbin:/bin".toList

def environment : Environment :=
  [("PATH".toList, searchPath), ("HOME".toList, "/root".toList)]

/-- The paths at which a program may be found by its name. -/
def candidates (directories program : Raw) : List Raw :=
  (Raw.split ':' directories).map fun directory =>
    if directory.isEmpty then program else directory ++ '/' :: program

/-- A path that leads nowhere, so that others are tried. -/
def leadsNowhere (error : OsError) : Bool :=
  error = .notFound || error = .notDirectory

/-- The first program of several paths that can be run. A file that may not be run is told only if
there is no other. -/
def startFirst (attempt : Raw → Except OsError Table) : (denied : Bool) → List Raw →
    Except OsError Table
  | denied, [] => .error (if denied then .accessDenied else .notFound)
  | denied, path :: rest =>
    match attempt path with
    | .ok table => .ok table
    | .error .accessDenied => startFirst attempt true rest
    | .error error => if leadsNowhere error then startFirst attempt denied rest else .error error

def firstNumber : Nat := 4242

/-- The storage at the start: nothing to read, and two streams to write to. -/
def freshStorage (files : FileSystem) : Storage :=
  let (_, storage) := ({ files } : Storage).add ⟨.nothing, true, false, false, 0, 1⟩
  let (_, storage) := storage.add ⟨.output, false, true, false, 0, 1⟩
  (storage.add ⟨.complaints, false, true, false, 0, 1⟩).2

/-- The system whose first process has just become a program. -/
def start (files : FileSystem) (programs : String → Option (Invocation → Activity))
    (program : Raw) (arguments : List Raw) : Except OsError Table :=
  let process : Process := {
    number := firstNumber, parent := 1, directory := files.home, phase := .active (.ended 0)
    descriptors := [⟨0, 0, false⟩, ⟨1, 1, false⟩, ⟨2, 2, false⟩] }
  let table : Table := {
    storage := freshStorage files, programs, first := firstNumber, next := firstNumber + 1 }
  let attempt (path : Raw) : Except OsError Table :=
    match table.become process ⟨Raw.toString path⟩ program arguments environment with
    | .becomes activity process table => .ok (table.queue process activity)
    | .answered error _ _ => .error error
    | .waits _ _ | .killed _ _ _ => .error .notFound
  if program.isEmpty then .error .notFound
  else if program.contains '/' then attempt program
  else startFirst attempt false (candidates searchPath program)

/-- Runs a program, and tells what it leaves and the files after it. -/
def execute (files : FileSystem) (programs : String → Option (Invocation → Activity))
    (program : String) (arguments : List String) : Except OsError (Completed × FileSystem) := do
  if program.toList.contains '\x00' || arguments.any (·.toList.contains '\x00') then
    .error .nulInArgument
  else
    let table ← start files programs (Raw.ofString program) (arguments.map Raw.ofString)
    let table := table.run forever 0
    return (⟨table.outcome.getD (.code 0), table.storage.output, table.storage.complaints⟩,
      table.storage.files)

def Completed.text (program : String) (completed : Completed) :
    Except Host.CommandError String :=
  if completed.status = .code 0 then
    match Text.Utf8.decode completed.output with
    | .ok output => .ok (String.ofList (Text.trim output.toList))
    | .error flaw => .error (.notText program flaw)
  else
    let complaint := Text.trim (Text.Utf8.decodeLenient completed.complaints).toList
    .error (.failed program completed.status (String.ofList complaint))

end WheelInstaller.Process
