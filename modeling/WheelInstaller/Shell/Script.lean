import WheelInstaller.Shell.Evaluation

/-! The shell as a program: where its script comes from, and what it knows at the start. -/

namespace WheelInstaller.Shell

open Process Running

def firstBindings : List Binding :=
  let lasting (name value : String) : Binding :=
    { name := name.toList, value := some value.toList, lasting := true }
  [{ lasting "PATH" "" with value := some standardPath }, lasting "IFS" " \t\n",
   lasting "OPTIND" "1", lasting "PS1" "# ", lasting "PS2" "> ", lasting "PS4" "+ "]

/-- Takes over names and values that the shell was told. -/
def importEach : Environment → Running Unit
  | [] => return ()
  | (name, value) :: rest => do
    if !name.isEmpty && isName name then
      modify (·.bind { name, value := some value, exported := true })
    importEach rest

/-- Finds out the path on which the current directory was entered, if what the shell was told is
right. -/
def findEntered : Running (Option Raw) := do
  match (← get).value? "PWD".toList with
  | none => return none
  | some path =>
    let told : Except OsError Status ← ask (.status ⟨Raw.toString path⟩ true)
    let here : Except OsError Status ← ask (.status ⟨"."⟩ true)
    match told, here with
    | .ok told, .ok here =>
      return if path.head? = some '/' && told.identity = here.identity then some path else none
    | _, _ => return none

def prepare (environment : Environment) : Running Unit := do
  let numbers : Nat × Nat ← ask .numbers
  let (own, parent) := numbers
  modify fun state => { state with own, parent, bindings := firstBindings }
  importEach environment
  assign "IFS".toList usualSeparators
  assign "OPTIND".toList ['1']
  assign "PPID".toList (Raw.ofNat parent)
  noteDirectory (← findEntered)

/-- Runs the script that a descriptor leads to. A shell that talks to somebody goes on after a
failure. -/
def runSource (descriptor : Nat) : (rounds : Nat) → Running Unit
  | 0 => return ()
  | rounds + 1 => do
    match ← attempt (evaluateLines forever {} { text := [], isWhole := false } (some descriptor) 0)
      with
    | .ok _ => return ()
    | .error jump =>
      if jump = .failure && (← get).has .interactive then
        recover
        runSource descriptor rounds
      else leave jump
where
  /-- Forgets what was going on. -/
  recover : Running Unit := do
    unwindRedirections forever 0
    modify fun state =>
      { (state.settle .failure).giveBackAll 0 with speaker := none, printed := [], pending := [] }

def runArguments (arguments : List Raw) : Running Unit := do
  let switches ← turnAll true (arguments.length + 1) arguments {}
  if switches.rest.isEmpty then
    if switches.commanded then fail "-c requires an argument".toList
    modify (·.setSetting .stdin true)
  if (← get).has .interactive then modify (·.setSetting .monitor true)
  settleMonitor
  let isRead := (← get).has .stdin
  match switches.commanded, switches.rest with
  | true, text :: rest =>
    modify fun state => { state with name := rest.headD state.name, arguments := rest.tail }
    match ← attempt (evaluateText forever {} text) with
    | .ok _ => if isRead then runSource 0 forever
    | .error jump =>
      if jump = .failure && (← get).has .interactive then
        runSource.recover
        runSource 0 forever
      else leave jump
  | false, path :: rest =>
    if isRead then
      modify fun state => { state with arguments := path :: rest }
      runSource 0 forever
    else
      let descriptor ← openSource path
      modify fun state => { state with name := path, arguments := rest }
      runSource descriptor forever
  | _, [] => runSource 0 forever

def start (invocation : Invocation) : Activity :=
  let script : Running Unit := do
    prepare invocation.environment
    runArguments invocation.arguments
  script { name := invocation.name } (fun _ state => conclude forever .ended state)
    (conclude forever)

end WheelInstaller.Shell
