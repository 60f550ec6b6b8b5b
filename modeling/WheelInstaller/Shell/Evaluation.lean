import WheelInstaller.Shell.Commands
import WheelInstaller.Shell.Redirection

/-! Running commands. Commands run scripts and scripts run commands, so all of it is one recursion,
which `fuel` bounds. -/

namespace WheelInstaller.Shell

open Process Running

/-- What is known about the place of a command. -/
structure Flow where
  /-- Nothing comes after the command. -/
  exits : Bool := false
  /-- Its status is looked at, so that failure is no reason to give up. -/
  tested : Bool := false

/-- The command for which a simple command stands, as far as that is known before it is run. -/
structure Called where
  /-- The name and the arguments. -/
  words : List Raw := []
  /-- All words, as they are shown. -/
  shown : List Raw := []
  /-- The command of the shell, if it is one. -/
  builtin : Option String := none
  /-- It is a command of the shell whose failure ends the script. -/
  isSpecial : Bool := false
  /-- Assignments are for the command only. -/
  isApart : Bool := false
  /-- Functions count. -/
  functions : Bool := true
  /-- Where programs are looked for, if not at the usual places. -/
  path : Option Raw := none

def setLine (line : Nat) : Running Unit :=
  modify fun state => { state with line }

/-- The fields of the first word that has any, and the words after it. -/
def fillFields (capture : Command → Running Raw) : List Word → Running (List Raw × List Word)
  | [] => return ([], [])
  | word :: rest => do
    match ← expandFields capture word with
    | [] => fillFields capture rest
    | fields => return (fields, rest)

/-- The fields of arguments. Where assignments are expected, their values stay whole. -/
def expandArguments (capture : Command → Running Raw) (declares : Bool) : List Word →
    (found : List (List Raw)) → Running (List Raw)
  | [], found => return found.reverse.flatten
  | word :: rest, found => do
    let fields ←
      if declares && isAssignment word then
        pure [← expandText capture { assigns := true } word]
      else expandFields capture word
    expandArguments capture declares rest (fields :: found)

/-- What comes after the options of `command`: the words from the next name on, whether programs are
looked for at the standard places, and the words that are left. There is nothing if the options are for
something else. -/
def skipOptions (capture : Command → Running Raw) : (rounds : Nat) → (fields : List Raw) →
    (seen : List Raw) → (standard : Bool) → List Word →
    Running (Option (List Raw × Bool) × List Raw × List Word)
  | 0, fields, seen, _, rest => return (none, seen ++ fields, rest)
  | rounds + 1, [], seen, standard, rest => do
    match ← fillFields capture rest with
    | ([], rest) => return (none, seen, rest)
    | (fields, rest) => skipOptions capture rounds fields seen standard rest
  | rounds + 1, field :: fields, seen, standard, rest => do
    match field with
    | ['-', '-'] =>
      let (fields, rest) ← if fields.isEmpty then fillFields capture rest else pure (fields, rest)
      let found := if fields.isEmpty then none else some (fields, standard)
      return (found, seen ++ [field] ++ fields, rest)
    | '-' :: letter :: letters =>
      if (letter :: letters).all (· = 'p') then
        skipOptions capture rounds fields (seen ++ [field]) true rest
      else return (none, seen ++ field :: fields, rest)
    | _ => return (some (field :: fields, standard), seen ++ field :: fields, rest)

/-- Finds out for what the words of a simple command stand: `fields` were expanded already. -/
def resolve (capture : Command → Running Raw) : (rounds : Nat) → (called : Called) →
    (fields : List Raw) → List Word → Running Called
  | 0, called, _, _ => return called
  | rounds + 1, called, fields, rest => do
    let finish (called : Called) (declares : Bool) (fields : List Raw) (rest : List Word) :
        Running Called := do
      let more ← expandArguments capture declares rest []
      return { called with words := fields ++ more, shown := called.shown ++ more }
    let isFirst := called.builtin.isNone
    match (← get).meaning? called.functions (fields.headD []) with
    | some (.builtin name) =>
      let isSpecial := if isFirst then specialNames.contains name else called.isSpecial
      let called := { called with
        builtin := some name, isSpecial, isApart := !isFirst || !isSpecial }
      if name = "command" then
        match ← skipOptions capture forever fields.tail [] false rest with
        | (some (after, standard), seen, rest) =>
          resolve capture rounds { called with
            functions := false
            path := if standard then some standardPath else called.path
            shown := called.shown.take (called.shown.length - fields.length + 1) ++ seen } after rest
        | (none, seen, rest) =>
          let shown := called.shown.take (called.shown.length - fields.length + 1) ++ seen
          finish { called with shown } false (fields.take 1 ++ seen) rest
      else finish called (declarationNames.contains name) fields rest
    | _ => finish { called with builtin := none, isApart := true } false fields rest

def expandCall (capture : Command → Running Raw) (words : List Word) : Running Called := do
  match ← fillFields capture words with
  | ([], _) => return {}
  | (fields, rest) => resolve capture forever { shown := fields } fields rest

/-- Carries out assignments, and tells them as they are shown. -/
def assignAll (capture : Command → Running Raw) (isApart exported : Bool) : List Word →
    (found : List Raw) → Running (List Raw)
  | [], found => return found.reverse
  | word :: rest, found => do
    let text ← expandText capture { assigns := true } word
    if isApart then keepName text true
    else
      let (name, value) := splitAssignment text
      bind { name, value, exported }
    assignAll capture isApart exported rest (text :: found)

/-- Runs a command of the shell. What it prints is handed over at its end. -/
def runBuiltin (name : Raw) (work : Running Nat) : Running Unit := do
  let before := (← get).speaker
  modify fun state => { state with speaker := some name }
  match ← attempt work with
  | .ok status =>
    if ← flush then setStatus status
    else
      complain (name ++ ": I/O error".toList)
      setStatus (status ||| 1)
    modify fun state => { state with speaker := before }
  | .error jump =>
    -- What was not handed over yet is never printed.
    modify fun state => { state with speaker := before, printed := [] }
    leave jump

/-- Reads everything at a descriptor, after what was read already, the latest first. -/
def readRest (descriptor : Nat) : (rounds : Nat) → List ByteArray → Running Raw
  | 0, chunks => return join chunks
  | rounds + 1, chunks => do
    match ← ask (.read descriptor intakeSize none) with
    | .error _ => return join chunks
    | .ok bytes =>
      if bytes.isEmpty then return join chunks else readRest descriptor rounds (bytes :: chunks)
where
  /-- The text of chunks, the latest of which comes first. -/
  join (chunks : List ByteArray) : Raw :=
    Raw.ofBytes (chunks.foldr (fun chunk bytes => bytes ++ chunk) .empty)

def openSource (path : Raw) : Running Nat := do
  let opened ← openFile .input path
  match ← ask (.duplicate opened leastKept) with
  | .ok descriptor =>
    closeDescriptor opened
    return descriptor
  | .error _ => return opened

/-- What changes for a part of a script that goes on in a process of its own. -/
def becomeChild (inBackground isFirst : Bool) : Running Unit := do
  dropTraps (← get).traps
  modify fun state =>
    { state with isApart := true, descriptors := [], jobs := [], pending := [] }
  if inBackground then
    -- The keyboard neither stops it nor is read by it.
    ignoreSignal 2
    ignoreSignal 3
    if isFirst then
      closeDescriptor 0
      let _ ← ask (.open ⟨"/dev/null"⟩ .read 0)

/-- The state after a script was left. -/
def State.settle (state : State) (jump : Jump) : State :=
  let isMeant := jump = .exit || state.skip = .back false
  { state with
    status := match state.savedStatus with
      | some saved => if isMeant then saved else state.status
      | none => state.status
    savedStatus := none, skip := .nothing, loops := 0 }

/-- Counts one loop less to skip. Tells whether the loop is left. -/
def leavesLoop : Running Bool := do
  match (← get).skip with
  | .nothing => return false
  | .back _ => return true
  | .leave count =>
    modify fun state =>
      { state with skip := if count ≤ 1 then .nothing else .leave (count - 1) }
    return true
  | .again count =>
    if count ≤ 1 then
      modify fun state => { state with skip := .nothing }
      return false
    else
      modify fun state => { state with skip := .again (count - 1) }
      return true

/-- Notes where the program for a command is, if its name is plain. -/
def noteProgram : Command → Running Unit
  | .simple _ _ (word :: _) _ => do
    match bareText? word with
    | some name =>
      if isName name && !name.isEmpty then
        let _ ← findMeaning true none name
    | none => return ()
  | _ => return ()

/-- The word that a text between double quotes is, or nothing if it is none. -/
def readQuoted (text : Raw) : Running Word := do
  let state ← get
  let reader : Reader := {
    text, aliases := state.aliases, nextDocument := state.nextDocument
    isPutBack := state.leftover.isSome, token := state.leftover.getD .newLine }
  let reading : Reading Word := do
    let c ← takeJoined
    let ending : Ending := (['\x00'], false)
    let (_, progress) ←
      readSymbols forever (some ending) false c { levels := (Level.base .double, []) }
    progress.finish true
    return progress.found.reverse
  match reading reader with
  | .error (.fault line message) =>
    modify fun state => { state with leftover := none }
    setLine line
    fail message
  | .error .starved => return []
  | .ok (word, reader) =>
    modify fun state =>
      { state with
        leftover := if reader.isPutBack then some reader.token else none
        nextDocument := reader.nextDocument
        documents := state.documents.insertMany reader.documents }
    return word

def traceStart (capture : Command → Running Raw) : Running Raw := do
  let text := ((← get).value? "PS4".toList).getD []
  modify fun state => { state with isTracing := true }
  let expanded ← attempt (do expandText capture { quoted := true } (← readQuoted text))
  modify fun state => { state with isTracing := false }
  match expanded with
  | .ok expanded => return expanded
  | .error .failure => return text
  | .error jump => leave jump

def trace (capture : Command → Running Raw) (words : List Raw) : Running Unit := do
  let state ← get
  if state.has .xtrace && !state.isTracing then
    let start ← traceStart capture
    write state.traceOutput (start ++ Raw.join [' '] words ++ ['\n'])

/-- How much of a script is read at once. -/
def sourceSize : Nat := 8191

/-- How many functions may run inside each other. -/
def callLimit : Nat := 1000

/-- Prints the lines of a script that were read, if that is wanted. -/
def echoLines (before after : Raw) : Running Unit := do
  if (← get).has .verbose then
    let isCut : Bool := match (before.take (before.length - after.length)).getLast? with
      | some c => c ≠ '\n'
      | none => false
    let rest := if isCut then (after.dropWhile (· ≠ '\n')).drop 1 else after
    write 2 (before.take (before.length - rest.length))

/-- Asks whoever talks to the shell for the lines of a command that were read: once for the command,
and once for each further line. -/
def prompt (capture : Command → Running Raw) (source : Option Nat) (further : Nat) :
    Running Unit := do
  let state ← get
  if state.has .interactive && source.isSome then
    let tell (name : String) : Running Unit := do
      let text := (state.value? name.toList).getD []
      match ← attempt (do expandText capture { quoted := true } (← readQuoted text)) with
      | .ok expanded => write 2 expanded
      | .error .failure => write 2 text
      | .error jump => leave jump
    tell "PS1"
    Running.each (fun _ => tell "PS2") (List.range further)

/-- A command whose failure ends the script, where failure does. -/
def Command.isChecked : Command → Bool
  | .simple _ _ _ _ | .subshell _ _ _ | .background _ _ _ | .pipeline _ _ => true
  | _ => false

/-- Ends the shell after a failure that nobody looks at, if that is wanted. -/
def leaveOnFailure (flow : Flow) : Running Unit := do
  let state ← get
  if state.has .errexit && !flow.tested && state.status ≠ 0 then leave .ended

mutual

/-- Does what is to be done about signals that came. -/
def answerSignals : (fuel : Nat) → Running Unit
  | 0 => return ()
  | fuel + 1 => do
    let signals : List Nat ← ask .poll
    let state ← get
    match state.pending ++ signals with
    | [] => return ()
    | pending =>
      modify fun state =>
        { state with
          pending := pending.mergeSort
          savedStatus := some (state.savedStatus.getD state.status) }
      answerPending fuel (state.savedStatus.getD state.status)
      modify fun after => { after with savedStatus := state.savedStatus }

/-- Does what is to be done about signals, after each of which the status is as before. -/
def answerPending : (fuel status : Nat) → Running Unit
  | 0, _ => return ()
  | fuel + 1, status => do
    let state ← get
    match state.pending, state.skip with
    | signal :: rest, .nothing =>
      modify fun state => { state with pending := rest.filter (· ≠ signal) }
      match state.trap? signal with
      | some action =>
        let _ ← evaluateText fuel {} action
        if (← get).skip ≠ .back true then setStatus status
      | none => pure ()
      answerPending fuel status
    | _, _ => return ()

/-- Runs a command, and tells the status after it. -/
def evaluate : (fuel : Nat) → Flow → Command → Running Nat
  | 0, _, _ => return 0
  | fuel + 1, flow, command => do
    if !(← get).has .noexec then
      answerSignals fuel
      match command with
      | .sequence first second =>
        let _ ← evaluate fuel { tested := flow.tested } first
        if (← get).skip = .nothing then
          let _ ← evaluate fuel flow second
      | .andThen first second =>
        let status ← evaluate fuel { tested := true } first
        if status = 0 && (← get).skip = .nothing then
          let _ ← evaluate fuel flow second
      | .orElse first second =>
        let status ← evaluate fuel { tested := true } first
        if status ≠ 0 && (← get).skip = .nothing then
          let _ ← evaluate fuel flow second
      | .branch condition yes no =>
        let status ← evaluate fuel { tested := true } condition
        if (← get).skip = .nothing then
          match status, no with
          | 0, _ =>
            let _ ← evaluate fuel flow yes
          | _, some no =>
            let _ ← evaluate fuel flow no
          -- The condition is not what failed.
          | _, none => setStatus 0
      | .negated body =>
        let status ← evaluate fuel { tested := true } body
        if (← get).skip = .nothing then setStatus (if status = 0 then 1 else 0)
      | .redirected line body redirections =>
        setLine line
        let targets ← expandTargets (fun script => capture fuel script) redirections []
        startKeeping
        let failed ← redirectSafely (fun script => capture fuel script) targets
        let status ←
          if failed ≠ 0 then pure failed else evaluate fuel { tested := flow.tested } body
        undoRedirections false
        setStatus status
        if failed ≠ 0 then leaveOnFailure flow
      | .define _ name body =>
        modify fun state =>
          { state with
            functions := ⟨name, body⟩ :: state.functions.filter (·.name ≠ name)
            tracked := state.tracked.filter (·.1 ≠ name) }
        setStatus 0
      | .loop isUntil condition body =>
        modify fun state => { state with loops := state.loops + 1 }
        let status ← evaluateLoop fuel { tested := flow.tested } isUntil condition body 0
        modify fun state => { state with loops := state.loops - 1 }
        setStatus status
      | .each line name words body =>
        setLine line
        let fields ← expandArguments (fun script => capture fuel script) false words []
        modify fun state => { state with loops := state.loops + 1 }
        let status ← evaluateEach fuel { tested := flow.tested } name body 0 fields
        modify fun state => { state with loops := state.loops - 1 }
        setStatus status
      | .choice line subject clauses =>
        setLine line
        let text ← expandText (fun script => capture fuel script) { tilde := true } subject
        setStatus (← evaluateChoice fuel flow text clauses)
      | .simple line assignments words redirections =>
        setStatus (← evaluateSimple fuel flow line assignments words redirections)
      | .subshell line body redirections =>
        setStatus (← evaluateApart fuel flow line body redirections)
      | .background line body redirections =>
        setStatus (← evaluateBackground fuel flow line body redirections)
      | .pipeline stages inBackground =>
        let job ← makeJob
        forkStages fuel flow job inBackground stages none
        setStatus (← if inBackground then pure 0 else finishJob job)
      if (← get).hasTraps then answerSignals fuel
      if command.isChecked then leaveOnFailure flow
    if flow.exits then leave .ended
    return (← get).status

/-- Runs the rounds of a loop, and tells its status. -/
def evaluateLoop : (fuel : Nat) → Flow → (isUntil : Bool) → (condition body : Command) →
    (status : Nat) → Running Nat
  | 0, _, _, _, _, status => return status
  | fuel + 1, flow, isUntil, condition, body, status => do
    let found ← evaluate fuel { tested := true } condition
    match (← get).skip with
    | .nothing =>
      if (found = 0) = isUntil then return status
      else
        let status ← evaluate fuel flow body
        if ← leavesLoop then return status
        else evaluateLoop fuel flow isUntil condition body status
    | skip =>
      let status := if skip = .back true then found else status
      if ← leavesLoop then return status
      else evaluateLoop fuel flow isUntil condition body status

/-- Runs a loop over fields, and tells its status. -/
def evaluateEach : (fuel : Nat) → Flow → (name : Raw) → (body : Command) → (status : Nat) →
    List Raw → Running Nat
  | 0, _, _, _, status, _ | _ + 1, _, _, _, status, [] => return status
  | fuel + 1, flow, name, body, _, field :: rest => do
    assign name field
    let status ← evaluate fuel flow body
    if ← leavesLoop then return status
    else evaluateEach fuel flow name body status rest

/-- Runs the clause of a choice whose pattern fits. -/
def evaluateChoice : (fuel : Nat) → Flow → (text : Raw) →
    List (List Word × Option Command) → Running Nat
  | 0, _, _, _ | _ + 1, _, _, [] => return 0
  | fuel + 1, flow, text, (patterns, body) :: rest => do
    if ← fitsOne fuel text patterns then
      match body with
      | some body => evaluate fuel flow body
      | none => return 0
    else evaluateChoice fuel flow text rest

def fitsOne : (fuel : Nat) → (text : Raw) → List Word → Running Bool
  | 0, _, _ | _ + 1, _, [] => return false
  | fuel + 1, text, word :: rest => do
    if (← expandPattern (fun script => capture fuel script) word).fits text then return true
    else fitsOne fuel text rest

/-- Goes on in a process of its own, which belongs to a job. -/
def forkChild : (fuel job : Nat) → (inBackground : Bool) → Running Unit → Running Unit
  | 0, _, _, _ => return ()
  | fuel + 1, job, inBackground, work => do
    let isFirst := ((← get).job? job).all (·.members.isEmpty)
    let child : Running Unit := do
      becomeChild inBackground isFirst
      work
    let process ← fork fun state =>
      child state (fun _ state => conclude fuel .ended state) (conclude fuel)
    joinJob job process
    if inBackground then modify fun state => { state with background := some process }

/-- Runs a command in a process of its own, and tells its status. The process may be this one. -/
def evaluateApart : (fuel : Nat) → Flow → (line : Nat) → Command → List Redirection → Running Nat
  | 0, _, _, _, _ => return 0
  | fuel + 1, flow, line, body, redirections => do
    setLine line
    let targets ← expandTargets (fun script => capture fuel script) redirections []
    let work : Running Unit := do
      Running.each (redirectOne (fun script => capture fuel script) false) targets
      let _ ← evaluate fuel { flow with exits := true } body
    if flow.exits && !(← get).hasTraps then
      work
      leave .ended
    else
      let job ← makeJob
      forkChild fuel job false work
      finishJob job

def evaluateBackground : (fuel : Nat) → Flow → (line : Nat) → Command → List Redirection →
    Running Nat
  | 0, _, _, _, _ => return 0
  | fuel + 1, _, line, body, redirections => do
    setLine line
    let targets ← expandTargets (fun script => capture fuel script) redirections []
    let job ← makeJob
    forkChild fuel job true do
      Running.each (redirectOne (fun script => capture fuel script) false) targets
      let _ ← evaluate fuel { exits := true } body
    return 0

/-- Runs commands, each of which reads what the one before it prints. -/
def forkStages : (fuel : Nat) → Flow → (job : Nat) → (inBackground : Bool) → List Command →
    (previous : Option Nat) → Running Unit
  | 0, _, _, _, _, _ | _ + 1, _, _, _, [], _ => return ()
  | fuel + 1, flow, job, inBackground, stage :: rest, previous => do
    noteProgram stage
    let ends : Option (Nat × Nat) ← match rest with
      | [] => pure none
      | _ => do pure (some (← ask .pipe))
    forkChild fuel job inBackground do
      match ends with
      | some (reading, _) => closeDescriptor reading
      | none => pure ()
      match previous with
      | some (descriptor + 1) => takeOver (descriptor + 1) 0
      | _ => pure ()
      match ends with
      | some (_, writing) => if 1 < writing then takeOver writing 1
      | none => pure ()
      let _ ← evaluate fuel { flow with exits := true } stage
    match previous with
    | some descriptor => closeDescriptor descriptor
    | none => pure ()
    match ends with
    | some (_, writing) => closeDescriptor writing
    | none => pure ()
    forkStages fuel flow job inBackground rest (ends.map (·.1))
where
  /-- Lets a descriptor lead where another one did, which is closed. -/
  takeOver (source target : Nat) : Running Unit := do
    let _ ← ask (.redirect source target)
    closeDescriptor source

def capture : (fuel : Nat) → Command → Running Raw
  | 0, _ => return []
  | fuel + 1, command => do
    let ends : Nat × Nat ← ask .pipe
    let (reading, writing) := ends
    let job ← makeJob
    forkChild fuel job false do
      closeDescriptor reading
      if writing ≠ 1 then
        let _ ← ask (.redirect writing 1)
        closeDescriptor writing
      let _ ← evaluate fuel { exits := true } command
    closeDescriptor writing
    let text ← readRest reading forever []
    closeDescriptor reading
    let status ← finishJob job
    modify fun state => { state with innerStatus := status }
    return text

/-- Runs a simple command, and tells its status. -/
def evaluateSimple : (fuel : Nat) → Flow → (line : Nat) → (assignments words : List Word) →
    List Redirection → Running Nat
  | 0, _, _, _, _, _ => return 0
  | fuel + 1, flow, line, assignments, words, redirections => do
    setLine line
    modify fun state => { state with innerStatus := 0 }
    let before ← get
    let called ← expandCall (fun script => capture fuel script) words
    if called.isApart then modify fun state => { state with kept := [] :: state.kept }
    let targets ← expandTargets (fun script => capture fuel script) redirections []
    if !redirections.isEmpty then startKeeping
    let failed ← redirectSafely (fun script => capture fuel script) targets
    if failed ≠ 0 then
      setStatus failed
      if called.isSpecial then leave .failure
    else
      let isExec := called.builtin = some "exec"
      let state ← get
      let latest := if redirections.isEmpty then [] else state.descriptors.headD []
      let traceOutput := ((latest.find? (·.1 = 2)).bind (·.2)).getD 2
      modify fun state => { state with traceOutput }
      let assigned ← assignAll (fun script => capture fuel script) called.isApart
        (isExec && 1 < called.words.length) assignments []
      trace (fun script => capture fuel script) (assigned ++ called.shown)
      perform fuel flow called
    if !redirections.isEmpty then undoRedirections (called.builtin = some "exec")
    unwindRedirections forever before.descriptors.length
    modify fun state => { state.giveBackAll before.kept.length with reached := before.reached }
    return (← get).status

def perform : (fuel : Nat) → Flow → Called → Running Unit
  | 0, _, _ => return ()
  | fuel + 1, flow, called => do
    match called.words with
    | [] => do setStatus (← get).innerStatus
    | name :: arguments =>
      match ← findMeaning called.functions called.path name with
      | .error error =>
        complain (name ++ ": ".toList ++ reasonFor "not found" error)
        setStatus 127
      | .ok (.builtin text) =>
        match ← attempt (runBuiltin name (runCommand fuel flow text arguments)) with
        | .ok () => return ()
        | .error .failure => if called.isSpecial then leave .failure
        | .error jump => leave jump
      | .ok (.function value) => runFunction fuel flow value arguments
      | .ok (.program place) =>
        let become : Running Unit := becomeProgram called.path (place.getD 0) name arguments
        if flow.exits && !(← get).hasTraps then become
        else
          let job ← makeJob
          let process ← fork fun state =>
            become state (fun _ state => .ended state.status)
              fun _ state => .ended state.status
          joinJob job process
          setStatus (← finishJob job)
      | .ok .unknown => setStatus 127

/-- Runs a command of the shell, and tells its status. -/
def runCommand : (fuel : Nat) → Flow → (name : String) → List Raw → Running Nat
  | 0, _, _, _ => return 0
  | fuel + 1, flow, name, arguments => do
    match name, arguments with
    | "eval", [] => return 0
    | "eval", arguments => evaluateText fuel { tested := flow.tested } (Raw.join [' '] arguments)
    | "exec", [] => return 0
    | "exec", program :: arguments =>
      modify fun state => (state.setSetting .interactive false).setSetting .monitor false
      becomeProgram none 0 program arguments
    | ".", arguments =>
      match ← withoutLetters arguments with
      | [] => return 0
      | name :: _ => runFile fuel name
    | name, arguments =>
      match command? name with
      | some work => work arguments
      | none => return 0

def runFunction : (fuel : Nat) → Flow → Function → List Raw → Running Unit
  | 0, _, _, _ => return ()
  | fuel + 1, flow, value, arguments => do
    let before ← get
    if callLimit ≤ before.calls then
      fail ("Maximum function recursion depth (".toList ++ Raw.ofNat callLimit ++
        ") reached".toList)
    modify fun state =>
      { state with
        calls := state.calls + 1, loops := 0, arguments, optionIndex := 1, optionOffset := none }
    let outcome ← attempt (evaluate fuel { tested := flow.tested } value.body)
    modify fun state =>
      { state with
        calls := before.calls, loops := before.loops, arguments := before.arguments
        optionIndex := before.optionIndex, optionOffset := before.optionOffset
        skip := match state.skip with
          | .back _ => .nothing
          | skip => skip }
    match outcome with
    | .ok _ => return ()
    | .error jump => leave jump

/-- Runs the script in a file, and tells its status. -/
def runFile : (fuel : Nat) → (name : Raw) → Running Nat
  | 0, _ => return 0
  | fuel + 1, name => do
    let state ← get
    let path ←
      if name.contains '/' then pure name
      else
        let paths := candidates state.searchPath name
        match ← searchFrom 0 .notFound paths with
        | .ok place => pure ((paths[place]?).getD name)
        | .error _ => fail (name ++ ": not found".toList)
    let descriptor ← openSource path
    modify fun state => { state with speaker := some path }
    let status ← evaluateLines fuel {} { text := [], isWhole := false } (some descriptor) 0
    closeDescriptor descriptor
    modify fun after =>
      { after with
        reached := state.reached
        skip := match after.skip with
          | .back _ => .nothing
          | skip => skip }
    return status

/-- Runs the commands in a text, and tells the status after them. -/
def evaluateText : (fuel : Nat) → Flow → (text : Raw) → Running Nat
  | 0, _, _ => return 0
  | fuel + 1, flow, text => do
    let before ← get
    let status ← evaluateLines fuel flow { text } none 0
    modify fun state => { state with reached := before.reached }
    return status

/-- Runs the commands that are left to read, line by line, and tells the status after them. More of the
script comes from a descriptor, if there is one. -/
def evaluateLines : (fuel : Nat) → Flow → Reader → (source : Option Nat) → (status : Nat) →
    Running Nat
  | 0, _, _, _, status => return status
  | fuel + 1, flow, reader, source, status => do
    let state ← get
    let reader := { reader with
      aliases := state.aliases, nextDocument := state.nextDocument, documents := [] }
    match readLine reader, source with
    | .error .starved, some descriptor =>
      let bytes ← match ← ask (.read descriptor sourceSize none) with
        | .ok bytes => pure bytes
        | .error _ => pure .empty
      let text := (Raw.ofBytes bytes).filter (· ≠ '\x00')
      evaluateLines fuel flow
        { reader with text := reader.text ++ text, isWhole := bytes.isEmpty } source status
    | .error .starved, none => return status
    | .error (.fault line message), source =>
      prompt (fun script => capture fuel script) source (line - reader.line)
      if source.isSome then echoLines reader.text []
      modify fun state => { state with leftover := none }
      setLine line
      fail message
    | .ok (.ended, after), source =>
      prompt (fun script => capture fuel script) source 0
      if source.isSome then echoLines reader.text after.text
      modify fun state => { state with leftover := some .ended }
      if state.has .interactive && source.isSome then write 2 ['\n']
      return status
    | .ok (.command body, after), source =>
      prompt (fun script => capture fuel script) source (after.line - reader.line - 1)
      if source.isSome then echoLines reader.text after.text
      modify fun state =>
        { state with
          reached := after.line
          leftover := if after.isPutBack then some after.token else none
          nextDocument := after.nextDocument
          documents := state.documents.insertMany after.documents }
      let status ← match body with
        | some body => evaluate fuel flow body
        | none => do
          if (← get).hasTraps then answerSignals fuel
          pure status
      if (← get).skip = .nothing then evaluateLines fuel flow after source status
      else return status

/-- Ends the process when the script was left. What is to be done at the end is done before. -/
def conclude : (fuel : Nat) → Jump → State → Activity
  | 0, _, state => .ended state.status
  | fuel + 1, jump, state =>
    let closing : Running Unit := do
      unwindRedirections forever 0
      modify fun state => state.settle jump
      let state ← get
      match state.trap? 0 with
      | none => pure ()
      | some action =>
        modify fun state =>
          { state.setTrap 0 none with savedStatus := some state.status, skip := .nothing }
        match ← attempt (evaluateText fuel {} action) with
        | .ok _ => modify fun state => { state with skip := .back false }.settle .ended
        | .error jump => modify fun state => state.settle jump
        unwindRedirections forever 0
      let _ ← flush
    closing state (fun _ state => .ended state.status) fun _ state => .ended state.status

end

end WheelInstaller.Shell
