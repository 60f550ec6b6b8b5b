import WheelInstaller.Shell.State

/-! Running a script: what the process that runs it does. A step either goes on, or leaves the script
by a jump, which others may catch. -/

namespace WheelInstaller.Shell

open Process

/-- A part of running a script, given what comes after it and after a jump out of it. -/
def Running (α : Type) : Type :=
  State → (α → State → Activity) → (Jump → State → Activity) → Activity

namespace Running

@[always_inline]
instance : Monad Running where
  pure value := fun state next _ => next value state
  bind work rest := fun state next escape =>
    work state (fun value state => rest value state next escape) escape

/-- What the script remembers. -/
@[inline]
def get : Running State :=
  fun state next _ => next state state

/-- Changes what the script remembers. -/
@[inline]
def modify (change : State → State) : Running Unit :=
  fun state next _ => next () (change state)

/-- Asks the system for something. -/
@[inline]
def ask (request : Request) : Running request.Answer :=
  fun state next _ => .ask request fun answer => next answer state

def leave {α : Type} (jump : Jump) : Running α :=
  fun state _ escape => escape jump state

def attempt {α : Type} (work : Running α) : Running (Except Jump α) :=
  fun state next _ =>
    work state (fun value state => next (.ok value) state) fun jump state =>
      next (.error jump) state

/-- Makes a process that goes on in another way, and tells its number. -/
def fork (child : State → Activity) : Running Nat :=
  fun state next _ => .fork (child state) fun number => next number state

/-- Does something with each element of a list. -/
def each {α : Type} (work : α → Running Unit) : List α → Running Unit
  | [] => return ()
  | first :: rest => do
    work first
    each work rest

end Running

open Running

def write (descriptor : Nat) (text : Raw) : Running Unit := do
  let _ ← ask (.write descriptor (Raw.toBytes text))

/-- Prints a text, which is held back until the command is over. -/
def print (text : Raw) : Running Unit :=
  modify fun state => { state with printed := text :: state.printed }

def printLine (text : Raw) : Running Unit :=
  print (text ++ ['\n'])

/-- Hands over what was printed. Tells whether that was possible. -/
def flush : Running Bool := do
  match (← get).printed with
  | [] => return true
  | printed =>
    modify fun state => { state with printed := [] }
    match ← ask (.write 1 (Raw.toBytes printed.reverse.flatten)) with
    | .ok () => return true
    | .error _ => return false

def complain (message : Raw) : Running Unit := do
  let state ← get
  let speaker := match state.speaker with
    | some speaker => speaker ++ ": ".toList
    | none => []
  write 2 (state.name ++ ": ".toList ++ Raw.ofNat state.line ++ ": ".toList ++ speaker ++
    message ++ ['\n'])

def fail {α : Type} (message : Raw) : Running α := do
  modify fun state => { state with status := 2 }
  complain message
  let _ ← flush
  leave .failure

def setStatus (status : Nat) : Running Unit :=
  modify fun state => { state with status }

def illegalNumber {α : Type} (text : Raw) : Running α :=
  fail ("Illegal number: ".toList ++ text)

def largestNumber : Nat := 0x7fffffff

/-- The number that an argument is. White space around it and a sign do not matter. -/
def number (text : Raw) : Running Nat := do
  let signed := text.dropWhile Raw.isSpace
  let digits := match signed with
    | '+' :: rest | '-' :: rest => rest
    | rest => rest
  let run := digits.takeWhile Char.isDigit
  let value := Raw.digitsValue run
  let isNegative := signed.head? = some '-' && value ≠ 0
  if run.isEmpty || !(digits.drop run.length).all Raw.isSpace || isNegative || largestNumber < value
  then illegalNumber text
  else return value

/-- Gives a name a value, or takes it away, and marks it. The place where options are looked for has to
be a number. -/
def bind (marks : Binding) : Running Unit := do
  if (← get).isFixed marks.name then fail (marks.name ++ ": is read only".toList)
  let isMarked := marks.exported || marks.fixed || marks.lasting
  if marks.name = "OPTIND".toList && (marks.value.isSome || !isMarked) then
    let _ ← number (marks.value.getD [])
  modify (·.bind marks)

/-- A name, and what follows its equals sign if there is one. -/
def splitAssignment (text : Raw) : Raw × Option Raw :=
  match Raw.splitAt? '=' text with
  | some (name, value) => (name, some value)
  | none => (text, none)

/-- Gives a text that should be a name a value, or takes it away, and marks it. -/
def bindName (marks : Binding) : Running Unit := do
  let text := (splitAssignment marks.name).1
  if text.isEmpty || leadingName text ≠ text then fail (text ++ ": bad variable name".toList)
  else bind marks

def assign (name value : Raw) : Running Unit :=
  bindName { name, value := some value }

/-- The words for a cause, for what was to be done with a file. -/
def reasonFor (words : String) (error : OsError) : Raw :=
  match error with
  | .notFound | .notDirectory => words.toList
  | error => error.reason.toList

/-! The options of the shell and of its commands, which are letters. -/

/-- The letters of options, and whether they have a value. -/
abbrev Letters := List (Char × Bool)

/-- Letters without values. -/
def plainLetters (text : String) : Letters :=
  text.toList.map fun c => (c, false)

/-- Reads the options at the start of arguments: letters with their values, the latest first, and the
arguments after them. `current` is what is left of the argument being read. -/
def readLetters (letters : Letters) : (fuel : Nat) → (current : Raw) → List Raw →
    (found : List (Char × Raw)) → Running (List (Char × Raw) × List Raw)
  | 0, _, arguments, found => return (found, arguments)
  | fuel + 1, c :: current, arguments, found => do
    match letters.find? (·.1 = c), current, arguments with
    | none, _, _ => fail ("Illegal option -".toList ++ [c])
    | some (_, false), current, arguments =>
      readLetters letters fuel current arguments ((c, []) :: found)
    | some (_, true), [], [] => fail ("No arg for -".toList ++ c :: " option".toList)
    | some (_, true), [], value :: arguments =>
      readLetters letters fuel [] arguments ((c, value) :: found)
    | some (_, true), value, arguments =>
      readLetters letters fuel [] arguments ((c, value) :: found)
  | fuel + 1, [], arguments, found => do
    match arguments with
    | ['-', '-'] :: rest => return (found, rest)
    | ('-' :: c :: current) :: rest => readLetters letters fuel (c :: current) rest found
    | arguments => return (found, arguments)

/-- The options at the start of arguments in order, and the arguments after them. -/
def takeLetters (letters : Letters) (arguments : List Raw) :
    Running (List (Char × Raw) × List Raw) := do
  let size := arguments.foldl (fun size argument => size + argument.length + 1) 1
  let (found, rest) ← readLetters letters size [] arguments []
  return (found.reverse, rest)

/-- The arguments after options, of which there are none. -/
def withoutLetters (arguments : List Raw) : Running (List Raw) := do
  let (_, rest) ← takeLetters [] arguments
  return rest

/-- The line that tells a setting, in words or as a command that would set it. -/
def settingLine (isCommand : Bool) (state : State) (setting : Setting) (name : String) : Raw :=
  let on := state.has setting
  if isCommand then "set ".toList ++ (if on then "-o " else "+o ").toList ++ name.toList ++ ['\n']
  else
    name.toList ++ List.replicate (16 - name.length) ' ' ++ (if on then "on\n" else "off\n").toList

/-- Tells all settings. At the start, none is off yet. -/
def tellSettings (isStart isCommand : Bool) : Running Unit := do
  let state ← get
  let state := if isStart then { state with settings := Setting.all.map (·.1) } else state
  if !isCommand then printLine "Current option settings".toList
  Running.each (fun (setting, name, _) => print (settingLine isCommand state setting name))
    Setting.all

def turn (setting : Setting) (on : Bool) : Running Unit := do
  modify (·.setSetting setting on)
  match setting, on with
  | .vi, true => modify (·.setSetting .emacs false)
  | .emacs, true => modify (·.setSetting .vi false)
  | _, _ => return ()

/-- The shell itself does not watch jobs after all, because there is no terminal to watch them
from. -/
def settleMonitor : Running Unit := do
  let numbers : Nat × Nat ← ask .numbers
  let state ← get
  if state.has .monitor && numbers.1 = state.own then
    complain "can't access tty; job control turned off".toList
    modify (·.setSetting .monitor false)

/-- Turns a setting on or off by its name, or tells all settings. -/
def turnNamed (isStart on : Bool) : Option Raw → Running Unit
  | none => tellSettings isStart (!on)
  | some name => do
    match Setting.all.find? fun (_, known, _) => known.toList = name with
    | some (setting, _) => turn setting on
    | none => fail ("Illegal option -o ".toList ++ name)

def turnLetter (on : Bool) (c : Char) : Running Unit := do
  match Setting.all.find? fun (_, _, letter) => letter = some c with
  | some (setting, _) => turn setting on
  | none => fail ("Illegal option -".toList ++ [c])

/-- What the options at the start of the arguments of the shell or of `set` come to. -/
structure Switches where
  /-- The script is an argument. -/
  commanded : Bool := false
  /-- The arguments after the options. -/
  rest : List Raw := []
  /-- There are to be no positional parameters. -/
  clears : Bool := false

/-- Turns settings on and off as the letters of an argument say. Tells the further arguments, and
whether the script is one of them. -/
def turnLetters (isStart on : Bool) : (letters : Raw) → List Raw → (commanded : Bool) →
    Running (List Raw × Bool)
  | [], arguments, commanded => return (arguments, commanded)
  | c :: letters, arguments, commanded => do
    if c = 'c' && isStart then turnLetters isStart on letters arguments true
    else if c = 'l' && isStart then turnLetters isStart on letters arguments commanded
    else if c = 'o' then
      turnNamed isStart on arguments.head?
      turnLetters isStart on letters arguments.tail commanded
    else
      turnLetter on c
      turnLetters isStart on letters arguments commanded

/-- Turns settings on and off as arguments say. -/
def turnAll (isStart : Bool) : (rounds : Nat) → List Raw → Switches → Running Switches
  | 0, arguments, switches => return { switches with rest := arguments }
  | rounds + 1, arguments, switches => do
    match arguments with
    | [] => return { switches with rest := [] }
    | ['-'] :: rest =>
      if !isStart then
        modify fun state => (state.setSetting .xtrace false).setSetting .verbose false
      return { switches with rest }
    | ['-', '-'] :: rest => return { switches with rest, clears := rest.isEmpty }
    | (sign :: letters) :: rest =>
      if sign = '-' || sign = '+' then
        let (rest, commanded) ← turnLetters isStart (sign = '-') letters rest switches.commanded
        turnAll isStart rounds rest { switches with commanded }
      else return { switches with rest := arguments }
    | arguments => return { switches with rest := arguments }

end WheelInstaller.Shell
