import WheelInstaller.Process.Activity
import WheelInstaller.Process.Image

/-! The processes of a system, and how their requests are carried out. -/

namespace WheelInstaller

open Process (Activity Reaction)

/-- A number by which a process knows something open. -/
structure Descriptor where
  number : Nat
  key : Nat
  /-- It is closed when the process becomes another program. -/
  closes : Bool := false

inductive Phase where
  | active (activity : Activity)
  /-- It has ended, and its parent may want to know how. -/
  | ended (status : Host.ExitStatus)

structure Process where
  number : Nat
  parent : Nat
  descriptors : List Descriptor := []
  directory : Location
  /-- The permissions that new files do not get. -/
  mask : Nat := 0o022
  /-- What is done about signals, if it is not what is usual. -/
  reactions : List (Nat × Reaction) := []
  /-- Signals that were noted. -/
  noted : List Nat := []
  /-- The reading of the clock up to which it sleeps. -/
  wakes : Option Nat := none
  /-- It waits for children already. -/
  isWaiting : Bool := false
  phase : Phase

namespace Process

def reaction (process : Process) (signal : Nat) : Reaction :=
  ((process.reactions.find? (·.1 = signal)).map (·.2)).getD .usual

def key? (process : Process) (descriptor : Nat) : Option Nat :=
  (process.descriptors.find? (·.number = descriptor)).map (·.key)

/-- The smallest number from `least` on that no descriptor has, of at most `count` more. -/
def freeFrom (process : Process) : (count least : Nat) → Nat
  | 0, least => least
  | count + 1, least =>
    if process.descriptors.any (·.number = least) then process.freeFrom count (least + 1)
    else least

/-- The smallest number from `least` on that no descriptor has. -/
def free (process : Process) (least : Nat) : Nat :=
  process.freeFrom process.descriptors.length least

def attach (process : Process) (descriptor : Descriptor) : Process :=
  { process with descriptors := descriptor :: process.descriptors }

def detach (process : Process) (number : Nat) : Process :=
  { process with descriptors := process.descriptors.filter (·.number ≠ number) }

def isOver (process : Process) : Bool :=
  match process.phase with
  | .ended _ => true
  | .active _ => false

/-- Paths with a meaning of their own. -/
inductive Special where
  | device (stream : Stream)
  /-- What a descriptor leads to. -/
  | descriptor (number : Nat)
  /-- A terminal that is not there. -/
  | terminal
deriving DecidableEq, Repr

def descriptorNumber? (text : String) : Option Nat := do
  let digits ← ["/dev/fd/", "/proc/self/fd/"].findSome? fun start =>
    if start.toList.isPrefixOf text.toList then some (text.toList.drop start.length) else none
  if digits.isEmpty || !digits.all Char.isDigit then none else some (Raw.digitsValue digits)

/-- The meaning of a path that has one of its own. -/
def special? (path : Path) : Option Special :=
  match path.text with
  | "/dev/null" => some (.device .nothing)
  | "/dev/zero" => some (.device .zeros)
  | "/dev/full" => some (.device .crowded)
  | "/dev/tty" => some .terminal
  | "/dev/stdin" => some (.descriptor 0)
  | "/dev/stdout" => some (.descriptor 1)
  | "/dev/stderr" => some (.descriptor 2)
  | text => (descriptorNumber? text).map .descriptor

structure Table where
  storage : Storage
  /-- The programs that there are. -/
  programs : String → Option (Invocation → Activity)
  /-- The reading of the clock, in microseconds. -/
  clock : Nat := 0
  /-- The number of the first process. -/
  first : Nat
  /-- How the first process has ended. -/
  outcome : Option Host.ExitStatus := none
  /-- The number of the next process. -/
  next : Nat
  /-- All processes but the one that is running. The first one is to run next. -/
  others : List Process := []

inductive Step (α : Type) where
  | answered (value : α) (process : Process) (table : Table)
  /-- It is carried out later. -/
  | waits (process : Process) (table : Table)
  /-- A signal ends the process. -/
  | killed (signal : Nat) (process : Process) (table : Table)
  | becomes (activity : Activity) (process : Process) (table : Table)

namespace Table

/-- Lets go of everything that a process has open. -/
def releaseAll (storage : Storage) (process : Process) : Storage :=
  process.descriptors.foldl (fun storage descriptor => storage.release descriptor.key) storage

/-- The table after a process has ended. Its children have no parent any more. -/
def bury (table : Table) (process : Process) (status : Host.ExitStatus) : Table :=
  let mourned := table.others.any fun other => other.number = process.parent && !other.isOver
  let others := table.others.filter fun other => !(other.isOver && other.parent = process.number)
  let others := others.map fun other =>
    if other.parent = process.number then { other with parent := 1 }
    else if other.number = process.parent && other.reaction Signal.child = .noted then
      { other with noted := other.noted.filter (· ≠ Signal.child) ++ [Signal.child] }
    else other
  let grave := { process with descriptors := [], phase := .ended status }
  { table with
    storage := releaseAll table.storage process
    outcome := if process.number = table.first then some status else table.outcome
    others := if mourned then others ++ [grave] else others }

/-- What a signal does to a process: the process after it, or nothing if it ends. -/
def strike (signal : Nat) (process : Process) : Option Process :=
  if process.isOver || signal = 0 then some process
  else if Signal.isCompelling signal then none
  else
    match process.reaction signal with
    | .ignored => some process
    | .noted => some { process with noted := process.noted.filter (· ≠ signal) ++ [signal] }
    | .usual => if Signal.isHarmless signal then some process else none

def strikeOther (signal : Nat) (table : Table) (target : Process) : Table :=
  match strike signal target with
  | some after =>
    { table with
      others := table.others.map fun other =>
        if other.number = target.number then after else other }
  | none =>
    { table with others := table.others.filter (·.number ≠ target.number) }.bury target
      (.signal signal)

def kill (table : Table) (process : Process) (target : Int) (signal : Nat) :
    Step (Except OsError Unit) :=
  let isMeant (other : Process) : Bool :=
    if 0 < target then (other.number : Int) = target else target ≤ 0 && -1 ≤ target
  let targets := table.others.filter isMeant
  let itself := isMeant process && target ≠ -1
  if targets.isEmpty && !itself then .answered (.error .noProcess) process table
  else
    let whole := targets.foldl (strikeOther signal)
      { table with others := process :: table.others }
    let process := (whole.others.find? (·.number = process.number)).getD process
    let table := { whole with others := whole.others.filter (·.number ≠ process.number) }
    if itself then
      match strike signal process with
      | some process => .answered (.ok ()) process table
      | none => .killed signal process table
    else .answered (.ok ()) process table

/-- The reading of the clock, as files get it. -/
def now (table : Table) : Nat :=
  Storage.startTime + table.clock

/-- The table in which something at a place was changed just now. -/
def touched (table : Table) (location : Location) : Table :=
  { table with storage := table.storage.stamp location table.now }

/-- The table in which something came up at a place or went from it just now. -/
def touchedAbove (table : Table) (location : Location) : Table :=
  table.touched location.dropLast

/-- The place that a path leads to, links at its end aside. -/
def place? (table : Table) (process : Process) (path : Path) : Option Location :=
  match (table.storage.view process.directory).status false path with
  | .ok (location, _) => some location
  | .error _ => none

def noteMade (table : Table) (process : Process) (path : Path) : Table :=
  match table.place? process path with
  | some location => (table.touched location).touchedAbove location
  | none => table

/-- Opens something under the smallest free number. -/
def install (table : Table) (process : Process) (opened : Opened) :
    Step (Except OsError Nat) :=
  let (key, storage) := table.storage.add opened
  let number := process.free 0
  .answered (.ok number) (process.attach { number, key }) { table with storage }

/-- What is opened for a purpose at a stream that has no place of its own. -/
def openedFor (stream : Stream) (purpose : Purpose) : Opened where
  stream
  reads := purpose = .read || purpose = .update
  writes := purpose ≠ .read
  appends := purpose = .append

/-- The table after a stream was opened, which was there or not. -/
def noteOpened (table : Table) (purpose : Purpose) (isThere : Bool) (stream : Stream) : Table :=
  match stream, purpose with
  | _, .read => table
  | .file location, purpose =>
    if !isThere then (table.touched location).touchedAbove location
    else if purpose = .replace then table.touched location
    else table
  | _, _ => table

def openPath (table : Table) (process : Process) (path : Path) (purpose : Purpose) (mode : Nat) :
    Step (Except OsError Nat) :=
  let refuse (error : OsError) := Step.answered (.error error) process table
  match special? path with
  | some (.device stream) =>
    if purpose = .make then refuse .alreadyExists
    else table.install process (openedFor stream purpose)
  | some .terminal => refuse .noDevice
  | some (.descriptor number) =>
    match (process.key? number).bind (table.storage.opened[·]?) with
    | none => refuse .notFound
    | some opened =>
      match opened.stream with
      | .file location =>
        let table :=
          if purpose = .replace then
            let storage := table.storage.alterFile location fun mode _ => (mode, .empty)
            ({ table with storage } : Table).touched location
          else table
        table.install process (openedFor (.file location) purpose)
      | stream => table.install process (openedFor stream purpose)
  | none =>
    let mode := mode - (mode &&& process.mask)
    let isThere := ((table.storage.view process.directory).status true path).toBool
    let (outcome, storage) := table.storage.openPath process.directory mode purpose path
    let table : Table := { table with storage }
    match outcome with
    | .error error => .answered (.error error) process table
    | .ok opened => (table.noteOpened purpose isThere opened.stream).install process opened

/-- What is known about something open. -/
def describeStream (storage : Storage) (stream : Stream) : Status :=
  match stream with
  | .nothing | .zeros | .crowded => { kind := .device, mode := 0o666, identity := stream }
  | .pipe _ | .output | .complaints => { kind := .pipe, mode := 0o600, identity := stream }
  | .directory location =>
    { kind := .directory, mode := storage.modeOf location, size := 4096, identity := stream
      modified := storage.stampOf location }
  | .nameless number =>
    { kind := .file, mode := 0o644, size := (storage.nameless.getD number .empty).size
      identity := stream, names := 0 }
  | .file location =>
    let names := storage.namesOf location
    match storage.files.get? location with
    | some (.file mode content) =>
      { kind := .file, mode, size := content.size, identity := .file (names.headD location)
        names := names.length, modified := storage.stampOf location }
    | _ => { kind := .file, mode := 0, identity := stream }

def statusOf (table : Table) (process : Process) (path : Path) (follow : Bool) :
    Except OsError Status :=
  match special? path with
  | some (.device stream) => .ok (describeStream table.storage stream)
  | some .terminal => .ok { kind := .device, mode := 0o666, identity := .nothing }
  | some (.descriptor number) =>
    match (process.key? number).bind (table.storage.opened[·]?) with
    | none => .error .notFound
    | some opened =>
      if follow then .ok (describeStream table.storage opened.stream)
      else .ok { kind := .link, mode := 0o777, identity := opened.stream }
  | none => do
    match ← (table.storage.view process.directory).status follow path with
    | (location, .directory) => return describeStream table.storage (.directory location)
    | (location, .link target) =>
      return { kind := .link, mode := 0o777, size := target.text.utf8ByteSize
               identity := .file location, modified := table.storage.stampOf location }
    | (location, .file _ _) => return describeStream table.storage (.file location)

/-- The longest argument of a program, and how much all arguments and the environment may take. -/
def argumentLimits : Nat × Nat := (131071, 2097152)

/-- The arguments are not too long for a program. -/
def checkArguments (arguments : List Raw) (environment : Environment) : Except OsError Unit :=
  let texts := arguments.map List.length ++
    environment.map fun (name, value) => name.length + value.length + 1
  if texts.any (argumentLimits.1 < ·) || argumentLimits.2 < texts.foldl (· + · + 9) 0 then
    .error .tooManyArguments
  else .ok ()

/-- What a process does as the program at a path, with at most `levels` interpreters that are scripts
themselves. -/
def load (table : Table) (process : Process) (environment : Environment) : (levels : Nat) →
    (path : Path) → (name : Raw) → (arguments : List Raw) → Except OsError Activity
  | levels, path, name, arguments => do
    if special? path |>.isSome then .error .accessDenied
    match ← (table.storage.view process.directory).status true path with
    | (_, .file mode content) =>
      if !Image.isExecutable mode then .error .accessDenied
      else
        match ← Image.read content, levels with
        | .program program, _ =>
          match table.programs program with
          | some start => return start ⟨name, arguments, environment⟩
          | none => .error .notExecutable
        | .script _ _, 0 => .error .tooManyLinks
        | .script interpreter argument, levels + 1 =>
          table.load process environment levels ⟨Raw.toString interpreter⟩ interpreter
            (argument.toList ++ Raw.ofString path.text :: arguments)
    | _ => .error .accessDenied

def become (table : Table) (process : Process) (path : Path) (name : Raw) (arguments : List Raw)
    (environment : Environment) : Step OsError :=
  let loaded := do
    checkArguments (name :: arguments) environment
    table.load process environment Image.interpreterLimit path name arguments
  match loaded with
  | .error error => .answered error process table
  | .ok activity =>
    let (closed, kept) := process.descriptors.partition (·.closes)
    let storage := closed.foldl (fun storage descriptor => storage.release descriptor.key)
      table.storage
    let reactions := process.reactions.filter (·.2 = .ignored)
    .becomes activity { process with descriptors := kept, reactions, noted := [] }
      { table with storage }

/-- What a process learns about a child, or about any. One that waits already hears of signals first. -/
def await (table : Table) (process : Process) (child : Option Nat) (waits interruptible : Bool) :
    Step Awaited :=
  let children := table.others.filter fun other =>
    other.parent = process.number && child.all (other.number = ·)
  let ended := children.findSome? fun other =>
    match other.phase with
    | .ended status => some (other.number, status)
    | .active _ => none
  let rested := { process with isWaiting := false }
  let isDisturbed := interruptible && process.noted.any (· ≠ Signal.child)
  match if process.isWaiting && isDisturbed then none else ended with
  | some (number, status) =>
    .answered (.ended number status) rested
      { table with others := table.others.filter (·.number ≠ number) }
  | none =>
    if children.isEmpty then .answered .nobody rested table
    else if !waits then .answered .notYet rested table
    else if interruptible && !process.noted.isEmpty then .answered .interrupted rested table
    else .waits { process with isWaiting := true } table

/-- Carries out a transfer on what a descriptor leads to. -/
def transfer {α : Type} (table : Table) (process : Process) (descriptor : Nat)
    (action : Storage → Nat → Transfer α) : Step (Except OsError α) :=
  match process.key? descriptor with
  | none => .answered (.error .badDescriptor) process table
  | some key =>
    match action table.storage key with
    | .waits => .waits process table
    | .failed error => .answered (.error error) process table
    | .done value storage => .answered (.ok value) process { table with storage }
    | .broken =>
      match strike Signal.pipe process with
      | none => .killed Signal.pipe process table
      | some process => .answered (.error .brokenPipe) process table

/-- The answer after something was taken away from a place. -/
def answeredAfter (table : Table) (process : Process) (storage : Storage)
    (outcome : Except OsError Unit) (place : Option Location) : Step (Except OsError Unit) :=
  let table := { table with storage }
  match outcome, place with
  | .ok (), some location =>
    let table := { table with storage := table.storage.clearPlace location }
    .answered (.ok ()) process (table.touchedAbove location)
  | outcome, _ => .answered outcome process table

def follow (table : Table) (process : Process) (old new : Location) : Process × Table :=
  let move (process : Process) : Process :=
    { process with directory := Storage.moved old new process.directory }
  (move process, { table with others := table.others.map move })

def perform (table : Table) (process : Process) : (request : Request) → Step request.Answer
  | .read descriptor limit stop =>
    table.transfer process descriptor fun storage key => storage.read key limit stop
  | .write descriptor bytes =>
    table.transfer process descriptor fun storage key =>
      match storage.write key bytes, storage.location? key with
      | .done () storage, some location =>
        .done () (if bytes.isEmpty then storage else storage.stamp location table.now)
      | transfer, _ => transfer
  | .open path purpose mode => table.openPath process path purpose mode
  | .close descriptor =>
    match process.key? descriptor with
    | none => .answered (.error .badDescriptor) process table
    | some key =>
      .answered (.ok ()) (process.detach descriptor)
        { table with storage := table.storage.release key }
  | .duplicate descriptor least =>
    match process.key? descriptor with
    | none => .answered (.error .badDescriptor) process table
    | some key =>
      let number := process.free least
      .answered (.ok number) (process.attach { number, key, closes := true })
        { table with storage := table.storage.hold key }
  | .redirect source target =>
    match process.key? source with
    | none => .answered (.error .badDescriptor) process table
    | some key =>
      if source = target then .answered (.ok ()) process table
      else
        let storage := table.storage.hold key
        let storage := match process.key? target with
          | some old => storage.release old
          | none => storage
        .answered (.ok ()) ((process.detach target).attach { number := target, key })
          { table with storage }
  | .pipe =>
    let (reading, writing, storage) := table.storage.addPipe
    let first := process.free 0
    let process := process.attach { number := first, key := reading }
    let second := process.free 0
    .answered (first, second) (process.attach { number := second, key := writing })
      { table with storage }
  | .rewind descriptor count =>
    match (process.key? descriptor).bind fun key =>
      (table.storage.opened[key]?).map fun opened => (key, opened) with
    | none => .answered (.error .badDescriptor) process table
    | some (key, opened) =>
      match opened.stream with
      | .file _ | .nameless _ =>
        .answered (.ok ()) process { table with
          storage := table.storage.setOpened key
            { opened with position := opened.position - count } }
      | _ => .answered (.error .illegalSeek) process table
  | .describe descriptor =>
    match (process.key? descriptor).bind (table.storage.opened[·]?) with
    | none => .answered (.error .badDescriptor) process table
    | some opened =>
      .answered (.ok (describeStream table.storage opened.stream, opened.position)) process table
  | .status path follow => .answered (table.statusOf process path follow) process table
  | .list path =>
    let names := (table.storage.view process.directory).readDirectory path
    .answered (names.map fun names => names.map Raw.ofString) process table
  | .readLink path =>
    let target := match (table.storage.view process.directory).status false path with
      | .ok (_, .link target) => .ok (Raw.ofString target.text)
      | .ok _ => .error .invalidArgument
      | .error error => .error error
    .answered target process table
  | .makeDirectory path mode =>
    let (outcome, storage) := table.storage.act process.directory (FileSystem.makeDirectory path)
    let table := { table with storage }
    match outcome, table.place? process path with
    | .ok (), some location =>
      let mode := mode - (mode &&& process.mask)
      let table := { table with storage := (table.storage.clearPlace location).setModeOf location mode }
      .answered (.ok ()) process (table.noteMade process path)
    | outcome, _ => .answered outcome process table
  | .remove path =>
    let place := table.place? process path
    let (outcome, storage) := table.storage.unlink process.directory path
    table.answeredAfter process storage outcome place
  | .removeDirectory path =>
    let place := table.place? process path
    let (outcome, storage) :=
      table.storage.act process.directory (FileSystem.removeEmptyDirectory path)
    table.answeredAfter process storage outcome place
  | .rename source target =>
    let (outcome, storage) := table.storage.rename process.directory source target
    let table := { table with storage }
    match outcome with
    | .error error => .answered (.error error) process table
    | .ok none => .answered (.ok ()) process table
    | .ok (some (old, new)) =>
      let (process, table) := table.follow process old new
      .answered (.ok ()) process ((table.touchedAbove old).touchedAbove new)
  | .link source target =>
    let (outcome, storage) := table.storage.link process.directory source target
    let storage := match table.place? process source, outcome with
      | some location, .ok () => storage.stamp location (table.storage.stampOf location)
      | _, _ => storage
    .answered outcome process { table with storage }
  | .makeLink path target =>
    let (outcome, storage) := table.storage.act process.directory (FileSystem.makeLink path target)
    let table := { table with storage }
    .answered outcome process (if outcome.toBool then table.noteMade process path else table)
  | .setMode path mode =>
    match table.statusOf process path true with
    | .error error => .answered (.error error) process table
    | .ok status =>
      match status.identity with
      | .file location =>
        .answered (.ok ()) process { table with
          storage := table.storage.alterFile location fun _ content =>
            (FileSystem.permissions mode, content) }
      | .directory location =>
        .answered (.ok ()) process { table with
          storage := table.storage.setModeOf location (FileSystem.permissions mode) }
      | _ => .answered (.ok ()) process table
  | .setTime path follow time =>
    match table.statusOf process path follow with
    | .error error => .answered (.error error) process table
    | .ok status =>
      match status.identity with
      | .file location | .directory location =>
        .answered (.ok ()) process { table with
          storage := table.storage.stamp location (time.getD table.now) }
      | _ => .answered (.ok ()) process table
  | .currentDirectory =>
    .answered (Raw.ofString (FileSystem.absolutePath process.directory).text) process table
  | .enter path =>
    match (table.storage.view process.directory).status true path with
    | .error error => .answered (.error error) process table
    | .ok (location, .directory) =>
      .answered (.ok ()) { process with directory := location } table
    | .ok _ => .answered (.error .notDirectory) process table
  | .mask new =>
    .answered process.mask { process with mask := new.getD process.mask } table
  | .numbers => .answered (process.number, process.parent) process table
  | .await child waits interruptible => table.await process child waits interruptible
  | .kill target signal => table.kill process target signal
  | .react signal new =>
    let old := process.reaction signal
    match new with
    | none => .answered old process table
    | some reaction =>
      let others := process.reactions.filter (·.1 ≠ signal)
      .answered old { process with
        reactions := if reaction = .usual then others else (signal, reaction) :: others } table
  | .poll =>
    if process.noted.isEmpty then .answered [] process table
    else .answered process.noted { process with noted := [] } table
  | .sleep duration =>
    match process.wakes with
    | none => .waits { process with wakes := some (table.clock + duration) } table
    | some time =>
      if time ≤ table.clock then .answered () { process with wakes := none } table
      else .waits process table
  | .execute path name arguments environment =>
    table.become process path name arguments environment

/-- Makes a process that goes on like another one, and tells its number. -/
def spawn (table : Table) (process : Process) (activity : Activity) : Nat × Table :=
  let child := { process with
    number := table.next, parent := process.number, noted := [], wakes := none
    phase := .active activity }
  let storage := process.descriptors.foldl
    (fun storage descriptor => storage.hold descriptor.key) table.storage
  (table.next, { table with storage, next := table.next + 1, others := table.others ++ [child] })

end Table
end Process
end WheelInstaller
