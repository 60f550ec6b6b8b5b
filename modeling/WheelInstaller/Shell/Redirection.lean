import WheelInstaller.Shell.Expansion

/-! Redirections. What descriptors led to is kept under higher numbers until a command is over. -/

namespace WheelInstaller.Shell

open Process Running

/-- A redirection whose names are known. -/
inductive Target where
  | file (descriptor : Nat) (direction : Direction) (name : Raw)
  /-- To where another descriptor leads, or nowhere. -/
  | copy (descriptor : Nat) (source : Option Nat)
  | document (descriptor number : Nat)

def Target.descriptor : Target → Nat
  | .file descriptor _ _ | .copy descriptor _ | .document descriptor _ => descriptor

def expandTargets (capture : Command → Running Raw) : List Redirection → (found : List Target) →
    Running (List Target)
  | [], found => return found.reverse
  | .file descriptor direction name :: rest, found => do
    let name ← expandText capture { tilde := true } name
    expandTargets capture rest (.file descriptor direction name :: found)
  | .copy descriptor source :: rest, found => do
    match ← expandText capture { tilde := true } source with
    | ['-'] => expandTargets capture rest (.copy descriptor none :: found)
    | [c] =>
      if c.isDigit then
        expandTargets capture rest (.copy descriptor (some (c.toNat - '0'.toNat)) :: found)
      else refuse
    | _ => refuse
  | .document descriptor number :: rest, found =>
    expandTargets capture rest (.document descriptor number :: found)
where
  /-- Complains about a descriptor. -/
  refuse : Running (List Target) := do
    modify fun state => { state with line := state.reached }
    fail "Syntax error: Bad fd number".toList

/-- The least number under which descriptors are kept. -/
def leastKept : Nat := 10

def newMode : Nat := 0o666

def openFile (direction : Direction) (name : Raw) : Running Nat := do
  let path : Path := ⟨Raw.toString name⟩
  let create (purpose : Purpose) : Running Nat := do
    match ← ask (.open path purpose newMode) with
    | .ok descriptor => return descriptor
    | .error error => refuse error
  match direction with
  | .input =>
    match ← ask (.open path .read 0) with
    | .ok descriptor => return descriptor
    | .error error =>
      fail ("cannot open ".toList ++ name ++ ": ".toList ++ reasonFor "No such file" error)
  | .overwrite => create .replace
  | .append => create .append
  | .both => create .update
  | .output =>
    if !(← get).has .noclobber then create .replace
    else
      match ← ask (.status path true) with
      | .error _ => create .make
      | .ok status => if status.kind = .file then refuse .alreadyExists else create .replace
where
  /-- Complains that a file cannot be made. -/
  refuse (error : OsError) : Running Nat :=
    fail ("cannot create ".toList ++ name ++ ": ".toList ++
      reasonFor "Directory nonexistent" error)

def closeDescriptor (descriptor : Nat) : Running Unit := do
  let _ ← ask (.close descriptor)

/-- Keeps what a descriptor leads to, unless that was done already for these redirections, and closes
the descriptor. Tells whether it was done now. -/
def keepDescriptor (descriptor : Nat) : Running Bool := do
  match (← get).descriptors with
  | [] => return false
  | latest :: earlier =>
    if latest.any (·.1 = descriptor) then return false
    else
      let kept ← match ← ask (.duplicate descriptor leastKept) with
        | .ok number =>
          closeDescriptor descriptor
          pure (some number)
        | .error _ => pure none
      modify fun state =>
        { state with descriptors := ((descriptor, kept) :: latest) :: earlier }
      return true

/-- Notes that a descriptor led nowhere. -/
def noteClosed (descriptor : Nat) : Running Unit :=
  modify fun state =>
    match state.descriptors with
    | [] => state
    | latest :: earlier =>
      if latest.any (·.1 = descriptor) then state
      else { state with descriptors := ((descriptor, none) :: latest) :: earlier }

/-- Lets a descriptor lead to what another one was opened for. -/
def moveDescriptor (keeps : Bool) (source descriptor : Nat) : Running Unit := do
  if source = descriptor then
    if keeps then noteClosed descriptor
  else
    if keeps then
      let _ ← keepDescriptor descriptor
    let _ ← ask (.redirect source descriptor)
    closeDescriptor source

def redirectOne (capture : Command → Running Raw) (keeps : Bool) : Target → Running Unit
  | .file descriptor direction name => do
    moveDescriptor keeps (← openFile direction name) descriptor
  | .copy descriptor none => do
    let isDone ← if keeps then keepDescriptor descriptor else pure false
    if !isDone then closeDescriptor descriptor
  | .copy descriptor (some source) => do
    if source ≠ descriptor then
      if keeps then
        let _ ← keepDescriptor descriptor
      match ← ask (.redirect source descriptor) with
      | .ok () => return ()
      | .error error => fail (Raw.ofNat source ++ ": ".toList ++ error.reason.toList)
  | .document descriptor number => do
    let word := (← get).documents.getD number []
    let text ← expandText capture { quoted := true } word
    let (reading, writing) ← ask .pipe
    let _ ← ask (.write writing (Raw.toBytes text))
    closeDescriptor writing
    moveDescriptor keeps reading descriptor

def startKeeping : Running Unit :=
  modify fun state => { state with descriptors := [] :: state.descriptors }

/-- Carries out redirections so that they can be undone. Tells the status of a failure. -/
def redirectSafely (capture : Command → Running Raw) (targets : List Target) : Running Nat := do
  match ← attempt (Running.each (redirectOne capture true) targets) with
  | .ok () => return 0
  | .error .failure => return 2
  | .error jump => leave jump

/-- Undoes redirections, or lets them stay. -/
def restoreEach (stays : Bool) : List (Nat × Option Nat) → Running Unit
  | [] => return ()
  | (descriptor, kept) :: rest => do
    match kept with
    | none => if !stays then closeDescriptor descriptor
    | some number =>
      if !stays then
        let _ ← ask (.redirect number descriptor)
      closeDescriptor number
    restoreEach stays rest

/-- Undoes the latest redirections, or lets them stay. -/
def undoRedirections (stays : Bool) : Running Unit := do
  match (← get).descriptors with
  | [] => return ()
  | latest :: earlier =>
    modify fun state => { state with descriptors := earlier }
    restoreEach stays latest

/-- Undoes redirections until so many are left. -/
def unwindRedirections : (rounds count : Nat) → Running Unit
  | 0, _ => return ()
  | rounds + 1, count => do
    if count < (← get).descriptors.length then
      undoRedirections false
      unwindRedirections rounds count

end WheelInstaller.Shell
