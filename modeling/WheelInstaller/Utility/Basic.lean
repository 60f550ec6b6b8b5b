import WheelInstaller.Process.Activity

/-! Programs that every host has. What such a program prints is held back until there is enough of it
or the program ends; complaints are made at once. -/

namespace WheelInstaller.Utility

open Process

structure State where
  /-- The name it goes by. -/
  name : Raw
  /-- The names and values it was told. -/
  environment : Environment := []
  /-- What is to be printed, the latest first. -/
  pending : List Raw := []
  /-- How much that is. -/
  size : Nat := 0
  status : Nat := 0
  /-- The status if nothing can be printed. -/
  broken : Nat := 1
  /-- Printing has failed. -/
  failure : Option OsError := none

end Utility

def Utility (α : Type) : Type :=
  Utility.State → (α → Utility.State → Process.Activity) → Process.Activity

namespace Utility

open Process

instance : Monad Utility where
  pure value := fun state next => next value state
  bind work rest := fun state next => work state fun value state => rest value state next

/-- What the program remembers. -/
def state : Utility State :=
  fun state next => next state state

def alter (change : State → State) : Utility Unit :=
  fun state next => next () (change state)

def ask (request : Request) : Utility request.Answer :=
  fun state next => .ask request fun answer => next answer state

/-- How much is held back at most. -/
def blockSize : Nat := 4096

def hand (bytes : ByteArray) : Utility Unit := do
  match ← ask (.write 1 bytes) with
  | .ok () => return ()
  | .error error => alter fun state => { state with failure := some error }

/-- Hands over everything that was held back. -/
def flush : Utility Unit := do
  let before ← state
  if before.size ≠ 0 then
    alter fun state => { state with pending := [], size := 0 }
    hand (Raw.toBytes before.pending.reverse.flatten)

/-- Prints a text. Only whole blocks are handed over at once. -/
def print (text : Raw) : Utility Unit := do
  let before ← state
  let size := before.size + text.length
  if size < blockSize then
    alter fun state => { state with pending := text :: state.pending, size }
  else
    let whole := (text :: before.pending).reverse.flatten
    let count := size / blockSize * blockSize
    alter fun state => { state with pending := [whole.drop count], size := size - count }
    hand (Raw.toBytes (whole.take count))

def printLine (text : Raw) : Utility Unit := do
  print text
  print ['\n']

def remark (text : Raw) : Utility Unit := do
  let _ ← ask (.write 2 (Raw.toBytes text))

/-- Complains in the name of the program. What was printed before is handed over first. -/
def complain (message : Raw) : Utility Unit := do
  flush
  remark ((← state).name ++ ": ".toList ++ message ++ ['\n'])

/-- The program will end with a status, unless it is worse already. -/
def mark (status : Nat) : Utility Unit :=
  alter fun state => { state with status := max state.status status }

/-- The program will end with a status if nothing can be printed. -/
def breakWith (status : Nat) : Utility Unit :=
  alter fun state => { state with broken := status }

def fault (message : Raw) : Utility Unit := do
  complain message
  mark 1

/-- Ends the program, once everything is handed over. -/
def finish {α : Type} : Utility α :=
  let closing : Utility Unit := do
    flush
    match (← state).failure with
    | some error =>
      complain ("write error: ".toList ++ error.reason.toList)
      alter fun state => { state with status := state.broken }
    | none => return ()
  fun state _ => closing state fun _ state => .ended state.status

def exit {α : Type} (status : Nat) : Utility α := do
  alter fun state => { state with status }
  finish

/-- Complains, and ends the program. -/
def die {α : Type} (status : Nat) (message : Raw) : Utility α := do
  complain message
  exit status

def suggest {α : Type} (status : Nat) : Utility α := do
  remark ("Try '".toList ++ (← state).name ++ " --help' for more information.\n".toList)
  exit status

/-- Complains about how the program was called, and ends it. -/
def misuse {α : Type} (status : Nat) (message : Raw) : Utility α := do
  complain message
  suggest status

def start (work : List Raw → Utility Unit) (invocation : Invocation) : Activity :=
  let whole : Utility Unit := do
    work invocation.arguments
    finish
  whole { name := invocation.name, environment := invocation.environment }
    fun _ state => .ended state.status

def readSize : Nat := 65536

/-- Everything that is left to read at a descriptor, after what was read already, the latest first. -/
def readRest (descriptor : Nat) : (rounds : Nat) → List ByteArray →
    Utility (Except OsError ByteArray)
  | 0, chunks => return .ok (join chunks)
  | rounds + 1, chunks => do
    match ← ask (.read descriptor readSize none) with
    | .error error => return .error error
    | .ok bytes =>
      if bytes.isEmpty then return .ok (join chunks) else readRest descriptor rounds (bytes :: chunks)
where
  /-- The chunks in one, the latest of which comes first. -/
  join (chunks : List ByteArray) : ByteArray :=
    chunks.foldr (fun chunk bytes => bytes ++ chunk) .empty

def readAll (descriptor : Nat) : Utility (Except OsError ByteArray) :=
  readRest descriptor forever []

def openFile (name : Raw) : Utility (Except OsError Nat) :=
  ask (.open ⟨Raw.toString name⟩ .read 0)

def close (descriptor : Nat) : Utility Unit := do
  let _ ← ask (.close descriptor)

def input : Nat := 0

/-- Closes the input if one of the files was the input. -/
def closeInput (names : List Raw) : Utility Unit := do
  if names.contains ['-'] then
    match ← ask (.close input) with
    | .ok () => return ()
    | .error error => die 1 ("-: ".toList ++ error.reason.toList)

/-- Asks whoever is at the input, and tells whether the answer is yes. -/
def confirms (question : Raw) : Utility Bool := do
  remark ((← state).name ++ ": ".toList ++ question)
  match ← ask (.read input 4096 (some 10)) with
  | .ok answer => return (Raw.ofBytes answer).head?.any fun c => c = 'y' || c = 'Y'
  | .error _ => return false

def statusOf (name : Raw) (follow : Bool) : Utility (Except OsError Status) :=
  ask (.status ⟨Raw.toString name⟩ follow)

/-- The words for a cause, after what it is about. -/
def because (subject : Raw) (error : OsError) : Raw :=
  subject ++ ": ".toList ++ error.reason.toList

end Utility
end WheelInstaller
