import WheelInstaller.Utility.Basic
import WheelInstaller.Utility.Launch
import WheelInstaller.Utility.Options

/-! Programs that tell who runs them and where: `whoami`, `id`, `groups`, `logname`, `tty`, `uname`,
`arch` and `printenv`. -/

namespace WheelInstaller.Utility.Identity

open Process

/-- The name of whoever runs programs. -/
def person : Raw := "root".toList

def refuseOperand {α : Type} (operand : Raw) : Utility α :=
  misuse 1 ("extra operand ".toList ++ quoteWord operand)

/-- The operands of a program without options. -/
def plainOperands (arguments : List Raw) : Utility (List Raw) := do
  let (_, operands) ← readOptions {} 1 () (fun _ _ _ => return ()) arguments
  return operands

def whoami (arguments : List Raw) : Utility Unit := do
  match ← plainOperands arguments with
  | [] => printLine person
  | extra :: _ => refuseOperand extra

def logname (arguments : List Raw) : Utility Unit := do
  match ← plainOperands arguments with
  | [] => die 1 "no login name".toList
  | extra :: _ => refuseOperand extra

/-- A name or number of somebody who is known. -/
def isKnown (name : Raw) : Bool :=
  name = person || name = ['0']

def groups (arguments : List Raw) : Utility Unit := do
  match ← plainOperands arguments with
  | [] => printLine person
  | names =>
    names.forM fun name =>
      if name = person then printLine (name ++ " : ".toList ++ person)
      else fault (quoteWord name ++ ": no such user".toList)

/-- What `id` is asked for. -/
structure Question where
  /-- The letters of the only things that are wanted. -/
  only : List Char := []
  byName : Bool := false
  isReal : Bool := false
  hasZeros : Bool := false

def questionOptions : Options where
  letters := Options.plainLetters "agnruzGZ"
  words := [
    ("context", .plain, "Z"), ("group", .plain, "g"), ("groups", .plain, "G"), ("name", .plain, "n"),
    ("real", .plain, "r"), ("user", .plain, "u"), ("zero", .plain, "z")]

def Question.take (question : Question) (key : String) : Utility Question := do
  match key with
  | "n" => return { question with byName := true }
  | "r" => return { question with isReal := true }
  | "z" => return { question with hasZeros := true }
  | "a" => return question
  | "Z" => die 1 "--context (-Z) works only on an SELinux-enabled kernel".toList
  | key =>
    let only := key.toList.filter fun c => !question.only.contains c
    return { question with only := question.only ++ only }

def identify (arguments : List Raw) : Utility Unit := do
  let (question, names) ← readOptions questionOptions 1 ({} : Question)
    (fun question key _ => question.take key) arguments
  if 1 < question.only.length then
    die 1 "cannot print \"only\" of more than one choice".toList
  if question.only.isEmpty && (question.byName || question.isReal) then
    die 1 "cannot print only names or real IDs in default format".toList
  if question.only.isEmpty && question.hasZeros then
    die 1 "option --zero not permitted in default format".toList
  let ending := if question.hasZeros then '\x00' else '\n'
  let text :=
    if question.only.isEmpty then "uid=0(root) gid=0(root) groups=0(root)".toList
    else if question.byName then person
    else ['0']
  let names := if names.isEmpty then [person] else names
  names.forM fun name =>
    if isKnown name then print (text ++ [ending])
    else fault (quoteWord name ++ ": no such user".toList)

def terminal (arguments : List Raw) : Utility Unit := do
  let options : Options := {
    letters := [('s', .plain)]
    words := [("silent", .plain, "s"), ("quiet", .plain, "s")] }
  let (silent, operands) ← readOptions options 2 false (fun _ _ _ => return true) arguments
  match operands with
  | [] =>
    if !silent then printLine "not a tty".toList
    mark 1
  | extra :: _ => misuse 2 ("extra operand ".toList ++ quoteWord extra)

/-- What a system says about itself: a letter, and the text for it. -/
def facts : List (Char × String) := [
  ('s', "Linux"), ('n', "localhost"), ('r', "6.1.0"), ('v', "#1 SMP PREEMPT_DYNAMIC"),
  ('m', "x86_64"), ('p', "unknown"), ('i', "unknown"), ('o', "GNU/Linux")]

def system (arguments : List Raw) : Utility Unit := do
  let options : Options := {
    letters := Options.plainLetters "asnrvmpio"
    words := [
      ("all", .plain, "a"), ("kernel-name", .plain, "s"), ("sysname", .plain, "s"),
      ("nodename", .plain, "n"), ("kernel-release", .plain, "r"), ("release", .plain, "r"),
      ("kernel-version", .plain, "v"), ("machine", .plain, "m"), ("processor", .plain, "p"),
      ("hardware-platform", .plain, "i"), ("operating-system", .plain, "o")] }
  let (letters, operands) ← readOptions options 1 ([] : List Char)
    (fun letters key _ => return letters ++ key.toList) arguments
  match operands with
  | extra :: _ => refuseOperand extra
  | [] => pure ()
  let isAll := letters.contains 'a'
  let letters := if letters.isEmpty then ['s'] else letters
  let chosen := facts.filter fun (letter, text) =>
    if isAll then text ≠ "unknown" else letters.contains letter
  printLine (Raw.join [' '] (chosen.map fun (_, text) => text.toList))

def machine (arguments : List Raw) : Utility Unit := do
  match ← plainOperands arguments with
  | [] => printLine "x86_64".toList
  | extra :: _ => refuseOperand extra

def environment (arguments : List Raw) : Utility Unit := do
  let options : Options := {
    letters := [('0', .plain)], words := [("null", .plain, "0")], strict := true }
  let (ending, names) ← readOptions options 2 '\n' (fun _ _ _ => return '\x00') arguments
  let told := (← state).environment
  if names.isEmpty then
    told.forM fun (name, value) => print (name ++ '=' :: value ++ [ending])
  else
    names.forM fun name =>
      match told.find? (·.1 = name) with
      | some (_, value) => print (value ++ [ending])
      | none => mark 1

end WheelInstaller.Utility.Identity

/-! `which`: where the programs are that the shell would run. -/

namespace WheelInstaller.Utility.Whereabouts

open Process

structure Settings where
  tellsAll : Bool := false
  isSilent : Bool := false

/-- Reads the letters of an argument. A letter that means nothing is told. -/
def readLetters : Settings → Raw → Except Char Settings
  | settings, [] => .ok settings
  | settings, 'a' :: rest => readLetters { settings with tellsAll := true } rest
  | settings, 's' :: rest => readLetters { settings with isSilent := true } rest
  | _, c :: _ => .error c

/-- Reads the options in front of the operands. -/
def readArguments : Settings → List Raw → Except Char (Settings × List Raw)
  | settings, ['-', '-'] :: rest => .ok (settings, rest)
  | settings, ('-' :: c :: letters) :: rest => do
    readArguments (← readLetters settings (c :: letters)) rest
  | settings, rest => .ok (settings, rest)

def canRun (path : Raw) : Utility Bool := do
  match ← statusOf path true with
  | .ok status => return status.kind = .file && status.mode &&& 0o111 ≠ 0
  | .error _ => return false

def pathsOf (places : List Raw) (name : Raw) : Utility (List Raw) :=
  if name.contains '/' then do return if ← canRun name then [name] else []
  else
    (places.map fun place => (if place.isEmpty then ['.'] else place) ++ '/' :: name).filterM canRun

/-- Tells about programs, and whether all were found. -/
def tell (settings : Settings) (places : List Raw) : List Raw → Utility Unit
  | [] => return ()
  | name :: rest => do
    let paths ← pathsOf places name
    if paths.isEmpty then mark 1
    if !settings.isSilent then
      (if settings.tellsAll then paths else paths.take 1).forM printLine
    tell settings places rest

/-- `which`. -/
def run (arguments : List Raw) : Utility Unit := do
  match readArguments {} arguments with
  | .error c =>
    remark ("Illegal option -".toList ++ [c, '\n'])
    printLine "Usage: /usr/bin/which [-as] args".toList
    mark 2
  | .ok (settings, names) =>
    let told := ((← state).environment.find? (·.1 = "PATH".toList)).map (·.2)
    if names.isEmpty then mark 1
    tell settings (Raw.split ':' (told.getD [])) names

end WheelInstaller.Utility.Whereabouts

/-! `env`: a program in other surroundings. -/

namespace WheelInstaller.Utility.Surroundings

open Process

/-- The status when the program is not tried at all. -/
def cancelled : Nat := 125

structure Settings where
  /-- Nothing is told. -/
  bare : Bool := false
  /-- What is not told. -/
  without : List Raw := []
  directory : Option Raw := none
  /-- What is printed after a name with its value. -/
  separator : Char := '\n'

def set (name value : Raw) : Environment → Environment
  | [] => [(name, value)]
  | known :: rest => if known.1 = name then (name, value) :: rest else known :: set name value rest

structure Splitting where
  /-- The latest word comes first. -/
  done : List Raw := []
  /-- The current word, the latest character first, if there is one. -/
  current : Option Raw := none

namespace Splitting

/-- The splitting with one more character in the current word. -/
def put (splitting : Splitting) (text : Raw) : Splitting :=
  { splitting with current := some (text.reverse ++ splitting.current.getD []) }

def close (splitting : Splitting) : Splitting :=
  match splitting.current with
  | none => splitting
  | some word => { done := word.reverse :: splitting.done }

def words (splitting : Splitting) : List Raw :=
  splitting.close.done.reverse

end Splitting

def escape? : Char → Option Char
  | '"' => some '"'
  | '#' => some '#'
  | '$' => some '$'
  | '\x27' => some '\x27'
  | '\\' => some '\\'
  | 'f' => some '\x0c'
  | 'n' => some '\n'
  | 'r' => some '\r'
  | 't' => some '\t'
  | 'v' => some '\x0b'
  | _ => none

/-- Splits a text into words. `quote` is the quote that is open, and the environment is for names
between curly brackets. -/
def split (environment : Environment) : (fuel : Nat) → (quote : Option Char) → Splitting → Raw →
    Except Raw (List Raw)
  | 0, _, splitting, _ => .ok splitting.words
  | _ + 1, quote, splitting, [] =>
    if quote.isSome then .error "no terminating quote in -S string".toList else .ok splitting.words
  | fuel + 1, quote, splitting, c :: rest =>
    if quote = some c then split environment fuel none splitting rest
    else if quote.isNone && (c = '"' || c = '\x27') then
      split environment fuel (some c) (splitting.put []) rest
    else if quote.isNone && Raw.isSpace c then split environment fuel none splitting.close rest
    else if quote.isNone && c = '#' && splitting.current.isNone then .ok splitting.words
    else if c = '\\' && quote ≠ some '\x27' then
      match rest with
      | [] => .error "invalid backslash at end of string in -S".toList
      | 'c' :: rest =>
        if quote.isSome then
          .error "'\\c' must not appear in double-quoted -S string".toList
        else split environment 0 none splitting rest
      | '_' :: rest =>
        if quote.isSome then split environment fuel quote (splitting.put [' ']) rest
        else split environment fuel quote splitting.close rest
      | letter :: rest =>
        match escape? letter with
        | some c => split environment fuel quote (splitting.put [c]) rest
        | none => .error ("invalid sequence '\\".toList ++ letter :: "' in -S".toList)
    else if c = '\\' && rest.head?.any (fun c => c = '\\' || c = '\x27') then
      split environment fuel quote (splitting.put (rest.take 1)) rest.tail
    else if c = '$' && quote ≠ some '\x27' then
      match rest with
      | '\x7b' :: text =>
        let name := text.takeWhile fun c => c.isAlphanum || c = '_'
        match text.drop name.length with
        | '\x7d' :: after =>
          let value := (environment.find? (·.1 = name)).map (·.2)
          let splitting := match value with
            | some value => splitting.put value
            | none => splitting
          split environment fuel quote splitting after
        | _ => .error (refusal (c :: rest))
      | _ => .error (refusal (c :: rest))
    else split environment fuel quote (splitting.put [c]) rest
where
  /-- The complaint about a dollar sign. -/
  refusal (text : Raw) : Raw :=
    "only $\x7bVARNAME\x7d expansion is supported, error at: ".toList ++ text

/-- The options of `env`. White space among them tells that several arguments were taken for one. -/
def options : Options where
  letters := [('C', .valued), ('i', .plain), ('S', .valued), ('u', .valued), ('v', .plain),
    ('0', .plain)] ++ Options.plainLetters " \t\n\x0b\x0c\r"
  words := [("chdir", .valued, "C"), ("ignore-environment", .plain, "i"),
    ("split-string", .valued, "S"), ("unset", .valued, "u"), ("debug", .plain, "v"),
    ("null", .plain, "0")]
  strict := true

def take (settings : Settings) (key : String) (value : Raw) : Utility Settings := do
  match key with
  | "i" => return { settings with bare := true }
  | "u" => return { settings with without := settings.without ++ [value] }
  | "C" => return { settings with directory := some value }
  | "0" => return { settings with separator := '\x00' }
  | "v" | "S" => return settings
  | blank =>
    complain ("invalid option -- ".toList ++ Options.quoted blank.toList)
    misuse cancelled "use -[v]S to pass options in shebang lines".toList

/-- Replaces the first option that holds further arguments by these, in at most `rounds` steps. -/
def unfold : (rounds : Nat) → (before : List Raw) → List Raw → Utility (List Raw)
  | 0, before, rest => return before.reverse ++ rest
  | _ + 1, before, [] => return before.reverse
  | rounds + 1, before, argument :: rest => do
    let expand (text : Raw) (rest : List Raw) : Utility (List Raw) := do
      match split (← state).environment (text.length + 1) none {} text with
      | .error complaint => die cancelled complaint
      | .ok words => unfold rounds before (words ++ rest)
    match argument, rest with
    | ['-', 'S'], text :: rest | ['-', 'v', 'S'], text :: rest => expand text rest
    | '-' :: 'S' :: text, rest | '-' :: 'v' :: 'S' :: text, rest => expand text rest
    | ['-', 'u'], value :: rest | ['-', 'C'], value :: rest =>
      unfold rounds (value :: argument :: before) rest
    | '-' :: letter :: letters, rest =>
      match Raw.splitAt? '=' (letter :: letters) with
      | some (name, text) =>
        if name = "-split-string".toList then expand text rest
        else unfold rounds (argument :: before) rest
      | none =>
        if letter :: letters = ['-'] then return before.reverse ++ argument :: rest
        else unfold rounds (argument :: before) rest
    | argument, rest => return before.reverse ++ argument :: rest

/-- The arguments at the start that are assignments, and those after them. -/
def takeAssignments (environment : Environment) : List Raw → Environment × List Raw
  | [] => (environment, [])
  | argument :: rest =>
    match Raw.splitAt? '=' argument with
    | some (name, value) => takeAssignments (set name value environment) rest
    | none => (environment, argument :: rest)

/-- `env`. -/
def run (arguments : List Raw) : Utility Unit := do
  breakWith cancelled
  let arguments ← unfold (16 * arguments.length + 16) [] arguments
  let (settings, operands) ← readOptions options cancelled ({} : Settings) take arguments
  let (bare, operands) := match operands with
    | ['-'] :: rest => (true, rest)
    | operands => (settings.bare, operands)
  let told := (← state).environment
  match settings.without.find? fun name => name.isEmpty || name.contains '=' with
  | some name =>
    if !bare then
      die cancelled (because ("cannot unset ".toList ++ quoteWord name) .invalidArgument)
  | none => pure ()
  let told := told.filter fun (name, _) => !settings.without.contains name
  let (environment, command) := takeAssignments (if bare then [] else told) operands
  match command with
  | [] =>
    if settings.directory.isSome then
      misuse cancelled "must specify command with --chdir (-C)".toList
    environment.forM fun (name, value) => print (name ++ '=' :: value ++ [settings.separator])
  | name :: rest =>
    if settings.separator ≠ '\n' then
      misuse cancelled "cannot specify --null (-0) with command".toList
    match settings.directory with
    | some directory =>
      match ← ask (.enter ⟨Raw.toString directory⟩) with
      | .ok () => pure ()
      | .error error =>
        die cancelled (because ("cannot change directory to ".toList ++ quoteName directory) error)
    | none => pure ()
    let error ← become name rest environment
    complain (because (quoteWord name) error)
    if error = .notFound && name.any Raw.isSpace then
      complain "use -[v]S to pass options in shebang lines".toList
    exit (if error = .notFound then 127 else 126)

end WheelInstaller.Utility.Surroundings
