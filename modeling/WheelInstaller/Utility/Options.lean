import WheelInstaller.Utility.Basic
import WheelInstaller.Utility.Quoting

/-! Reading the options of programs. An option is a letter or a word; words may be cut short as long as
only one is meant. Options count wherever they stand, up to a double dash. -/

namespace WheelInstaller.Utility

inductive Arity where
  | plain
  | valued
  | optional
deriving DecidableEq, Repr

/-- The options of a program. Words stand for the letter or the longer key beside them. -/
structure Options where
  letters : List (Char × Arity) := []
  words : List (String × Arity × String) := []
  /-- Options after the first operand are none. -/
  strict : Bool := false
  /-- How the program is called, if it says so itself when it is called in a wrong way. -/
  usage : Option String := none

/-- Something that was found among the arguments. -/
inductive Item where
  | option (key : String) (value : Option Raw)
  | bad (message : Raw)
deriving DecidableEq, Repr

namespace Options

/-- Letters without values, as a list of options. -/
def plainLetters (text : String) : List (Char × Arity) :=
  text.toList.map fun c => (c, .plain)

def valuedLetters (text : String) : List (Char × Arity) :=
  text.toList.map fun c => (c, .valued)

def quoted (text : Raw) : Raw :=
  '\x27' :: text ++ ['\x27']

/-- Reads the letters of one argument. A value is the rest of the argument or the next one. -/
def readLetters (options : Options) : Raw → List Raw → List Item × List Raw
  | [], rest => ([], rest)
  | c :: letters, rest =>
    let key := String.singleton c
    match options.letters.find? (·.1 = c) with
    | none => ([.bad ("invalid option -- ".toList ++ quoted [c])], rest)
    | some (_, .plain) =>
      let (items, rest) := options.readLetters letters rest
      (.option key none :: items, rest)
    | some (_, .optional) =>
      ([.option key (if letters.isEmpty then none else some letters)], rest)
    | some (_, .valued) =>
      match letters, rest with
      | [], [] => ([.bad ("option requires an argument -- ".toList ++ quoted [c])], rest)
      | [], value :: rest => ([.option key (some value)], rest)
      | letters, rest => ([.option key (some letters)], rest)

def readWord (options : Options) (text : Raw) (rest : List Raw) : Item × List Raw :=
  let (name, value) := match Raw.splitAt? '=' text with
    | some (name, value) => (name, some value)
    | none => (text, none)
  let meant := match options.words.find? (·.1.toList = name) with
    | some word => [word]
    | none => options.words.filter fun (word, _) => name.isPrefixOf word.toList
  let shown := "'--".toList ++ text ++ ['\x27']
  match meant with
  | [] => (.bad ("unrecognized option ".toList ++ shown), rest)
  | (word, arity, key) :: others =>
    if others.any fun (_, otherArity, otherKey) => otherArity ≠ arity || otherKey ≠ key then
      let all := meant.flatMap fun (word, _) => " '--".toList ++ word.toList ++ ['\x27']
      (.bad ("option ".toList ++ shown ++ " is ambiguous; possibilities:".toList ++ all), rest)
    else
      let full := "option '--".toList ++ word.toList ++ ['\x27']
      match arity, value, rest with
      | .plain, some _, rest => (.bad (full ++ " doesn't allow an argument".toList), rest)
      | .valued, none, [] => (.bad (full ++ " requires an argument".toList), rest)
      | .valued, none, value :: rest => (.option key (some value), rest)
      | _, value, rest => (.option key value, rest)

/-- Reads arguments: what was found of options, and the operands. -/
def read (options : Options) : (count : Nat) → List Raw → List Item × List Raw
  | 0, _ | _ + 1, [] => ([], [])
  | count + 1, argument :: rest =>
    match argument with
    | ['-', '-'] => ([], rest)
    | '-' :: '-' :: text =>
      let (item, rest) := options.readWord text rest
      let (items, operands) := options.read count rest
      (item :: items, operands)
    | '-' :: c :: letters =>
      let (found, rest) := options.readLetters (c :: letters) rest
      let (items, operands) := options.read count rest
      (found ++ items, operands)
    | argument =>
      if options.strict then ([], argument :: rest)
      else
        let (items, operands) := options.read count rest
        (items, argument :: operands)

end Options

/-- Gives every option to a program in turn, which may refuse it. -/
def takeOptions {σ : Type} (refuse : Raw → Utility σ) (take : σ → String → Raw → Utility σ) :
    σ → List Item → Utility σ
  | settings, [] => return settings
  | settings, .option key value :: rest => do
    takeOptions refuse take (← take settings key (value.getD [])) rest
  | _, .bad message :: _ => refuse message

/-- Tells how a program is called, and ends it. -/
def showUsage {α : Type} (status : Nat) (usage : String) : Utility α := do
  let name := (usage.toList.takeWhile (· ≠ ' '))
  remark ("Usage: ".toList ++ usage.toList ++ "\nTry '".toList ++ name ++
    " --help' for more information.\n".toList)
  exit status

/-- Reads the options and operands of a program. A bad option ends the program with a status. -/
def readOptions {σ : Type} (options : Options) (status : Nat) (settings : σ)
    (take : σ → String → Raw → Utility σ) (arguments : List Raw) : Utility (σ × List Raw) := do
  let refuse (message : Raw) : Utility σ := do
    complain message
    match options.usage with
    | some usage => showUsage status usage
    | none => suggest status
  let (items, operands) := options.read arguments.length arguments
  return (← takeOptions refuse take settings items, operands)

/-- The lines that tell the words an option takes. Words of the same meaning share a line. -/
def validWords {α : Type} [DecidableEq α] : Option α → List (String × α) → Raw
  | _, [] => ['\n']
  | before, (word, value) :: rest =>
    let start := if before = some value then ", " else "\n  - "
    start.toList ++ quoteWord word.toList ++ validWords (some value) rest

/-- The meaning of a word that an option was given, which may be cut short. -/
def chooseWord {α : Type} [DecidableEq α] (status : Nat) (option : String) (text : Raw)
    (choices : List (String × α)) : Utility α := do
  let meant := match choices.find? (·.1.toList = text) with
    | some choice => [choice]
    | none => choices.filter fun (word, _) => text.isPrefixOf word.toList
  match meant with
  | (_, value) :: others =>
    if others.all (·.2 = value) then return value else refuse "ambiguous"
  | [] => refuse "invalid"
where
  /-- Complains about the word. -/
  refuse (what : String) : Utility α := do
    complain (what.toList ++ " argument ".toList ++ quoteWord text ++ " for ".toList ++
      quoteWord option.toList)
    remark ("Valid arguments are:".toList ++ validWords none choices)
    suggest status

end WheelInstaller.Utility
