import WheelInstaller.Shell.Running
import WheelInstaller.Shell.Lookup

/-! The commands of the shell about names: parameters, functions, aliases and programs. -/

namespace WheelInstaller.Shell

open Running

/-- Remembers what a name or the settings are, and gives the name a value if there is one. -/
def keepName (text : Raw) (exported : Bool) : Running Unit := do
  let note (kept : Kept) : Running Unit :=
    modify fun state =>
      match state.kept with
      | [] => state
      | latest :: earlier => { state with kept := (kept :: latest) :: earlier }
  let state ← get
  if text = ['-'] then note (.settings state.settings)
  else
    let (name, value) := splitAssignment text
    match state.binding? name, value with
    | none, none =>
      bindName { name, exported, lasting := true }
      note (.absent name)
    | none, value =>
      bind { name, value, exported, lasting := true }
      note (.absent name)
    | some old, value =>
      if value.isSome then bind { name, value, exported, lasting := true }
      else modify (·.setBinding { old with lasting := true })
      note (.binding old)

/-- The state in which a name or the settings are what they were. -/
def State.giveBack (state : State) : Kept → State
  | .settings settings => { state with settings }
  | .absent name => state.dropBinding name
  | .binding old => (state.react old.name old.value).setBinding old

/-- The state in which everything is what it was before the latest changes, until so many are left. -/
def State.giveBackAll (count : Nat) (state : State) : State :=
  let rec go : List (List Kept) → State → State
    | [], state => state
    | latest :: earlier, state =>
      if earlier.length < count then state
      else go earlier (latest.foldl giveBack { state with kept := earlier })
  go state.kept state

def runLocal (arguments : List Raw) : Running Nat := do
  if (← get).kept.isEmpty then fail "not in a function".toList
  Running.each (fun argument => keepName argument false) arguments
  return 0

/-- The lines that tell names and their values, after a word if there is one. -/
def nameLines (start : Raw) (bindings : List Binding) : Raw :=
  let sorted := bindings.mergeSort fun first second => Raw.isAtMost first.name second.name
  sorted.flatMap fun binding =>
    (if start.isEmpty then [] else start ++ [' ']) ++ binding.name ++
      (match binding.value with
        | some value => '=' :: quoteValue value
        | none => []) ++ ['\n']

def markEach (exports : Bool) : List Raw → Running Unit
  | [] => return ()
  | argument :: rest => do
    let (name, value) := splitAssignment argument
    match (← get).binding? name, value with
    | some known, none =>
      modify (·.setBinding { known with
        exported := known.exported || exports, fixed := known.fixed || !exports })
    | _, value => bindName { name, value, exported := exports, fixed := !exports }
    markEach exports rest

/-- `export` or `readonly`. -/
def runMark (exports : Bool) (arguments : List Raw) : Running Nat := do
  let (found, rest) ← takeLetters (plainLetters "p") arguments
  if found.isEmpty && !rest.isEmpty then markEach exports rest
  else
    let bindings := (← get).bindings.filter fun binding =>
      if exports then binding.exported else binding.fixed
    print (nameLines (if exports then "export" else "readonly").toList bindings)
  return 0

def runUnset (arguments : List Raw) : Running Nat := do
  let (found, rest) ← takeLetters (plainLetters "vf") arguments
  match found.getLast? with
  | some ('f', _) =>
    modify fun state =>
      { state with functions := state.functions.filter fun known => !rest.contains known.name }
  | _ => Running.each (fun name => bindName { name }) rest
  return 0

def runSet (arguments : List Raw) : Running Nat := do
  if arguments.isEmpty then
    print (nameLines [] ((← get).bindings.filter (·.value.isSome)))
  else
    let switches ← turnAll false (arguments.length + 1) arguments {}
    settleMonitor
    if !switches.rest.isEmpty || switches.clears then
      modify fun state =>
        { state with arguments := switches.rest, optionIndex := 1, optionOffset := none }
  return 0

def runShift (arguments : List Raw) : Running Nat := do
  let count ← match arguments with
    | [] => pure 1
    | text :: _ => number text
  let state ← get
  if state.arguments.length < count then fail "can't shift that many".toList
  modify fun state =>
    { state with
      arguments := state.arguments.drop count, optionIndex := 1, optionOffset := none }
  return 0

def printAlias (entry : Alias) : Running Unit :=
  printLine (entry.name ++ '=' :: quoteValue entry.value)

/-- The aliases in the order in which they are told. -/
def State.sortedAliases (state : State) : List Alias :=
  (List.range State.groups).flatMap fun number =>
    state.aliases.filter fun entry => State.group entry.name = number

def State.setAlias (state : State) (entry : Alias) : State :=
  if state.aliases.any (·.name = entry.name) then
    { state with
      aliases := state.aliases.map fun known => if known.name = entry.name then entry else known }
  else { state with aliases := state.aliases ++ [entry] }

/-- Sets and tells aliases, and tells the status so far. -/
def aliasEach : List Raw → (status : Nat) → Running Nat
  | [], status => return status
  | argument :: rest, status => do
    let value := argument.tail.dropWhile (· ≠ '=')
    if value.isEmpty then
      match (← get).aliases.find? (·.name = argument) with
      | some entry =>
        printAlias entry
        aliasEach rest status
      | none =>
        write 2 ("alias: ".toList ++ argument ++ " not found\n".toList)
        aliasEach rest 1
    else
      let name := argument.take (argument.length - value.length)
      modify (·.setAlias ⟨name, value.tail⟩)
      aliasEach rest status

def runAlias (arguments : List Raw) : Running Nat := do
  if arguments.isEmpty then
    Running.each printAlias (← get).sortedAliases
    return 0
  else aliasEach arguments 0

/-- Takes away aliases, and tells the status so far. -/
def unaliasEach : List Raw → (status : Nat) → Running Nat
  | [], status => return status
  | name :: rest, status => do
    if (← get).aliases.any (·.name = name) then
      modify fun state => { state with aliases := state.aliases.filter (·.name ≠ name) }
      unaliasEach rest status
    else
      write 2 ("unalias: ".toList ++ name ++ " not found\n".toList)
      unaliasEach rest 1

def runUnalias (arguments : List Raw) : Running Nat := do
  let (found, rest) ← takeLetters (plainLetters "a") arguments
  if found.isEmpty then unaliasEach rest 0
  else
    modify fun state => { state with aliases := [] }
    return 0

/-- Looks for programs anew, and tells the status so far. -/
def hashEach : List Raw → (status : Nat) → Running Nat
  | [], status => return status
  | name :: rest, status => do
    modify fun state => { state with tracked := state.tracked.filter (·.1 ≠ name) }
    match ← findMeaning true none name with
    | .ok _ => hashEach rest status
    | .error error =>
      complain (name ++ ": ".toList ++ reasonFor "not found" error)
      hashEach rest 1

def runHash (arguments : List Raw) : Running Nat := do
  let (found, rest) ← takeLetters (plainLetters "r") arguments
  if !found.isEmpty then
    modify fun state => { state with tracked := [] }
    return 0
  else if rest.isEmpty then
    let state ← get
    let known := (List.range trackedGroups).flatMap fun number =>
      state.tracked.filter fun (name, _) => trackedGroup name = number
    Running.each (fun (name, place) => printLine (state.pathAt none place name)) known
    return 0
  else hashEach rest 0

def runType : List Raw → (status : Nat) → Running Nat
  | [], status => return status
  | name :: rest, status => do
    let (text, found) ← describe true none name
    print text
    runType rest (max status found)

/-- `command`, when it only tells about a name. -/
def runTell (arguments : List Raw) : Running Nat := do
  let (found, rest) ← takeLetters (plainLetters "pvV") arguments
  let has (c : Char) : Bool := found.any (·.1 = c)
  match rest with
  | name :: _ =>
    if has 'v' || has 'V' then
      let path := if has 'p' then some standardPath else none
      let (text, status) ← describe (has 'V') path name
      print text
      return status
    else return 0
  | [] => return 0

structure Scanned where
  letter : Char
  value : Option Raw := none
  complaint : Raw := []
  index : Nat
  offset : Option Nat := none
  isOver : Bool := false

/-- Looks at the next option among arguments. -/
def scanOption (letters : Raw) (arguments : List Raw) (index : Nat) (offset : Option Nat) :
    Scanned :=
  let current := (arguments[index - 2]?).getD []
  let left := match offset with
    | some count => if 1 < index && count ≤ current.length then current.drop count else []
    | none => []
  let past (index : Nat) : Scanned := { letter := '?', index, isOver := true }
  match left with
  | c :: rest => at? c rest index current
  | [] =>
    match arguments[index - 1]? with
    | some ['-', '-'] => past (index + 1)
    | some ('-' :: c :: rest) => at? c rest (index + 1) ('-' :: c :: rest)
    | _ => past index
where
  /-- What a letter comes to, with the rest of its argument, the number of the next argument, and the
  whole argument. -/
  at? (c : Char) (rest : Raw) (index : Nat) (whole : Raw) : Scanned :=
    let quiet := letters.head? = some ':'
    let offset := some (whole.length - rest.length)
    match takesValue? letters c with
    | none =>
      if quiet then { letter := '?', value := some [c], index, offset }
      else
        { letter := '?', complaint := "Illegal option -".toList ++ [c, '\n'], index, offset }
    | some false => { letter := c, value := some [], index, offset }
    | some true =>
      match rest, arguments[index - 1]? with
      | [], none =>
        if quiet then { letter := ':', value := some [c], index }
        else
          { letter := '?', complaint := "No arg for -".toList ++ c :: " option\n".toList, index }
      | [], some value => { letter := c, value := some value, index := index + 1 }
      | value, _ => { letter := c, value := some value, index }
  /-- Whether a letter has a value, if there is such a letter. -/
  takesValue? : Raw → Char → Option Bool
    | [], _ => none
    | known :: ':' :: rest, c => if known = c then some true else takesValue? rest c
    | known :: rest, c => if known = c then some false else takesValue? rest c

def runGetopts (arguments : List Raw) : Running Nat := do
  match arguments with
  | letters :: name :: given =>
    let state ← get
    let arguments := if given.isEmpty then state.arguments else given
    let (index, offset) :=
      if arguments.length + 1 < state.optionIndex then (1, none)
      else (state.optionIndex, state.optionOffset)
    let scanned := scanOption letters arguments index offset
    if !scanned.complaint.isEmpty then write 2 scanned.complaint
    if !scanned.isOver then bind { name := "OPTARG".toList, value := scanned.value }
    bind { name := "OPTIND".toList, value := some (Raw.ofNat scanned.index) }
    assign name [scanned.letter]
    modify fun state =>
      { state with optionIndex := scanned.index, optionOffset := scanned.offset }
    return if scanned.isOver then 1 else 0
  | _ => fail "Usage: getopts optstring var [arg]".toList

end WheelInstaller.Shell
