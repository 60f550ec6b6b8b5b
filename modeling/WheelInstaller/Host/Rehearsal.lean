import WheelInstaller.Host.World

/-! Hosts that can be told to fail. A rehearsal carries out requests like the plain host, except
that chosen calls fail, and that the deadline passes at a chosen call. It keeps a record of the
calls that change something, in order and before they take effect. -/

namespace WheelInstaller.Host

/-- How calls are named in a rehearsal. -/
structure Call where
  name : String
  /-- The path that the call is about; of two paths, the second. -/
  path : Path
  /-- What the record says about the call, if it changes something. -/
  line : Option String := none
  /-- The call belongs to the extraction of one file. -/
  perFile : Bool := false

def octal (mode : Nat) : String :=
  String.ofList (Nat.toDigits 8 mode)

/-- The call that a request is, if it is one that can be chosen. -/
def Request.call? : Request → Option Call
  | .exists path => some { name := "exists", path }
  | .isDirectory path => some { name := "is_dir", path }
  | .readDirectory path => some { name := "read_dir", path }
  | .canonicalize path => some { name := "canonicalize", path }
  | .write path content =>
    some { name := "write", path, line := some s!"write {path.text} {content.size}" }
  | .rename source target =>
    some { name := "rename", path := target,
           line := some s!"rename {source.text} -> {target.text}" }
  | .copy source target =>
    some { name := "copy", path := target, line := some s!"copy {source.text} -> {target.text}" }
  | .createDirectories path =>
    some { name := "create_dir_all", path, line := some s!"create_dir_all {path.text}" }
  | .removeFile path =>
    some { name := "remove_file", path, line := some s!"remove_file {path.text}" }
  | .removeDirectory path =>
    some { name := "remove_dir_all", path, line := some s!"remove_dir_all {path.text}" }
  | .createFile path =>
    some { name := "create_file", path, line := some s!"create_file {path.text}", perFile := true }
  | .append file _ => some { name := "file_write", path := file.path }
  | .flush file => some { name := "file_flush", path := file.path }
  | .setMode path mode =>
    some { name := "set_permissions", path,
           line := some s!"set_permissions {path.text} {octal mode}", perFile := true }
  | .commandOutput program _ => some { name := "command_output", path := ⟨program⟩ }
  | .readFile _ | .isCancelled | .register _ | .release _ | .cleanUp => none

/-- A choice of calls: by name, and by path if one is given. -/
structure Selector where
  name : String
  path : Option String := none
deriving DecidableEq, Repr

/-- The call is among those chosen. -/
def Selector.selects (selector : Selector) (call : Call) : Bool :=
  selector.name = call.name && selector.path.all (· = call.path.text)

/-- Calls that fail: all that are chosen, or only one of them, counted from one. -/
structure Fault where
  selector : Selector
  only : Option Nat := none
  /-- How many chosen calls there were. -/
  met : Nat := 0
deriving DecidableEq, Repr

/-- The fault after a call, and whether the call fails. -/
def Fault.meet (fault : Fault) (call : Call) : Fault × Bool :=
  if fault.selector.selects call then
    let met := fault.met + 1
    ({ fault with met }, fault.only.all (· = met))
  else (fault, false)

/-- The state of a rehearsal. -/
structure Rehearsal where
  world : World := {}
  faults : List Fault := []
  /-- The call at which the deadline passes. -/
  deadline : Option Selector := none
  /-- Noted paths reach the registry. -/
  registering : Bool := false
  /-- The record shows the calls that extract single files. -/
  showsFiles : Bool := true
  /-- The record, the latest call first. -/
  record : List String := []

namespace Rehearsal

/-- How a chosen call fails. -/
def failureOf (call : Call) : HostError :=
  .told s!"injected {call.name} failure"

/-- The answer to a request that is refused, if it can be. -/
def refusal (error : HostError) : (request : Request) → Option request.Answer
  | .exists _ | .isDirectory _ => some false
  | .readDirectory _ | .canonicalize _ | .copy _ _ | .createFile _ | .commandOutput _ _
  | .write _ _ | .rename _ _ | .createDirectories _ | .removeFile _ | .removeDirectory _
  | .append _ _ | .flush _ | .setMode _ _ => some (.error error)
  | .readFile _ | .isCancelled | .register _ | .release _ | .cleanUp => none

def note (rehearsal : Rehearsal) (call : Call) : Rehearsal :=
  match call.line with
  | some line =>
    if call.perFile && !rehearsal.showsFiles then rehearsal
    else { rehearsal with record := line :: rehearsal.record }
  | none => rehearsal

/-- Lets the deadline pass if this is the call for it. -/
def expire (rehearsal : Rehearsal) (call : Call) : Rehearsal :=
  if rehearsal.deadline.any (·.selects call) then
    { rehearsal with deadline := none, world := { rehearsal.world with cancelled := true } }
  else rehearsal

/-- Lets every fault meet a call, and tells whether the call fails. -/
def meetFaults (rehearsal : Rehearsal) (call : Call) : Bool × Rehearsal :=
  let met := rehearsal.faults.map (·.meet call)
  (met.any (·.2), { rehearsal with faults := met.map (·.1) })

def carryOut (request : Request) (rehearsal : Rehearsal) : request.Answer × Rehearsal :=
  let (answer, world) := World.perform request rehearsal.world
  (answer, { rehearsal with world })

def respond (request : Request) (rehearsal : Rehearsal) : request.Answer × Rehearsal :=
  match request.call? with
  | some call =>
    let (fails, rehearsal) := ((rehearsal.note call).expire call).meetFaults call
    match fails, refusal (failureOf call) request with
    | true, some answer => (answer, rehearsal)
    | _, _ => carryOut request rehearsal
  | none =>
    match request with
    | .register path =>
      if rehearsal.registering then carryOut (.register path) rehearsal else ((), rehearsal)
    | .release path =>
      if rehearsal.registering then carryOut (.release path) rehearsal else ((), rehearsal)
    | request => carryOut request rehearsal

def run {α : Type} (rehearsal : Rehearsal) (program : Program α) : α × Rehearsal :=
  program.run respond rehearsal

end Rehearsal
end WheelInstaller.Host
