import WheelInstaller.Host.Error

/-! Programs that act only by asking a host. A program is the tree of its requests, with one branch
for every answer; what it does under failing operations, deadlines or interruptions is a matter of
the answers. -/

namespace WheelInstaller.Host

/-- A file that was opened for writing. -/
structure OpenFile where
  path : Path
  location : List String
deriving DecidableEq, Repr

/-- What a host can be asked for. -/
inductive Request where
  /-- The content of a file. -/
  | readFile (path : Path)
  | exists (path : Path)
  | isDirectory (path : Path)
  /-- The paths of what is in a directory, in order. -/
  | readDirectory (path : Path)
  | canonicalize (path : Path)
  | write (path : Path) (content : ByteArray)
  | rename (source target : Path)
  | copy (source target : Path)
  /-- Make a directory and those it needs. -/
  | createDirectories (path : Path)
  | removeFile (path : Path)
  | removeDirectory (path : Path)
  | createFile (path : Path)
  /-- Add a chunk to an opened file. -/
  | append (file : OpenFile) (chunk : ByteArray)
  | flush (file : OpenFile)
  | setMode (path : Path) (mode : Nat)
  /-- The trimmed output of a program. -/
  | commandOutput (program : String) (arguments : List String)
  /-- Whether the caller has stopped waiting. -/
  | isCancelled
  /-- Note a path that is to be removed if all fails. -/
  | register (path : Path)
  /-- Forget a noted path. -/
  | release (path : Path)
  /-- Remove all noted paths, and tell how many were removed. -/
  | cleanUp

def Request.Answer : Request → Type
  | .readFile _ => Except OsError ByteArray
  | .exists _ | .isDirectory _ | .isCancelled => Bool
  | .readDirectory _ => Except HostError (List Path)
  | .canonicalize _ => Except HostError Path
  | .copy _ _ => Except HostError Nat
  | .createFile _ => Except HostError OpenFile
  | .commandOutput _ _ => Except HostError String
  | .write _ _ | .rename _ _ | .createDirectories _ | .removeFile _ | .removeDirectory _
  | .append _ _ | .flush _ | .setMode _ _ => Except HostError Unit
  | .register _ | .release _ => Unit
  | .cleanUp => Nat

/-- The program is over, or asks for something and goes on with the answer. -/
inductive Program (α : Type) where
  | done (value : α)
  | ask (request : Request) (next : request.Answer → Program α)

namespace Program

variable {α β γ : Type}

/-- Goes on with another program. -/
def bind : Program α → (α → Program β) → Program β
  | .done value, next => next value
  | .ask request rest, next => .ask request fun answer => (rest answer).bind next

instance : Monad Program where
  pure := .done
  bind := bind

def request (wanted : Request) : Program wanted.Answer :=
  .ask wanted .done

/-- Runs a program with answers from any source. -/
def runWith {m : Type → Type} [Monad m] (respond : (request : Request) → m request.Answer) :
    Program α → m α
  | .done value => return value
  | .ask request next => do runWith respond (next (← respond request))

/-- Runs a program on a host: a state, and a way to answer in each state. -/
def run {σ : Type} (respond : (request : Request) → σ → request.Answer × σ) :
    Program α → σ → α × σ
  | .done value, state => (value, state)
  | .ask request next, state =>
    let (answer, state) := respond request state
    run respond (next answer) state

/-- The program makes only requests that are allowed, whatever the answers. -/
def Uses (allowed : Request → Prop) : Program α → Prop
  | .done _ => True
  | .ask request next => allowed request ∧ ∀ answer, (next answer).Uses allowed

end Program

open Program (request)

/-- Asks for the content of a file. -/
def readFile (path : Path) : Program (Except OsError ByteArray) := request (.readFile path)

/-- Asks whether something is at a path. -/
def pathExists (path : Path) : Program Bool := request (.exists path)

def isDirectory (path : Path) : Program Bool := request (.isDirectory path)

def readDirectory (path : Path) : Program (Except HostError (List Path)) :=
  request (.readDirectory path)

/-- Asks for the canonical form of a path. -/
def canonicalize (path : Path) : Program (Except HostError Path) := request (.canonicalize path)

/-- Asks for a file with the given content. -/
def write (path : Path) (content : ByteArray) : Program (Except HostError Unit) :=
  request (.write path content)

/-- Asks to give a file another path. -/
def rename (source target : Path) : Program (Except HostError Unit) :=
  request (.rename source target)

/-- Asks for a copy of a file. -/
def copy (source target : Path) : Program (Except HostError Nat) := request (.copy source target)

/-- Asks for a directory and those it needs. -/
def createDirectories (path : Path) : Program (Except HostError Unit) :=
  request (.createDirectories path)

def removeFile (path : Path) : Program (Except HostError Unit) := request (.removeFile path)

/-- Asks to remove a directory with everything in it. -/
def removeDirectory (path : Path) : Program (Except HostError Unit) :=
  request (.removeDirectory path)

/-- Asks to open a new or emptied file. -/
def createFile (path : Path) : Program (Except HostError OpenFile) := request (.createFile path)

/-- Asks to add a chunk to an opened file. -/
def append (file : OpenFile) (chunk : ByteArray) : Program (Except HostError Unit) :=
  request (.append file chunk)

/-- Asks to hand over everything that was added to an opened file. -/
def flush (file : OpenFile) : Program (Except HostError Unit) := request (.flush file)

/-- Asks for permissions of a file. -/
def setMode (path : Path) (mode : Nat) : Program (Except HostError Unit) :=
  request (.setMode path mode)

def commandOutput (program : String) (arguments : List String) :
    Program (Except HostError String) :=
  request (.commandOutput program arguments)

/-- Asks whether the caller has stopped waiting. -/
def isCancelled : Program Bool := request .isCancelled

/-- Asks to note a path. -/
def register (path : Path) : Program Unit := request (.register path)

/-- Asks to forget a path. -/
def release (path : Path) : Program Unit := request (.release path)

/-- Asks to remove all noted paths. -/
def cleanUp : Program Nat := request .cleanUp

/-- Programs that can fail. -/
abbrev Attempt (ε α : Type) := ExceptT ε Program α

/-- The attempt whose outcome a program tells. -/
def attempt {ε α : Type} (program : Program (Except ε α)) : Attempt ε α := program

/-- The attempt whose outcome a program tells, with its failures in other terms. -/
def attemptAs {δ ε α : Type} (wrap : δ → ε) (program : Program (Except δ α)) : Attempt ε α :=
  attempt do return (← program).mapError wrap

/-- The attempt with an outcome that nothing has to be asked for. -/
def settled {ε α : Type} (outcome : Except ε α) : Attempt ε α :=
  attempt (pure outcome)

end WheelInstaller.Host
