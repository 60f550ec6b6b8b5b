import WheelInstaller.Process.Activity
import WheelInstaller.Text.Wildcard
import WheelInstaller.Utility.TextPattern
import WheelInstaller.Utility.Permissions
import WheelInstaller.Utility.Moment
import WheelInstaller.Utility.Options

/-! Expressions about files: what is looked for and what is done with what was found; and how they are read,
with where to start and which links to follow. -/

namespace WheelInstaller.Utility.Finding

open Process

/-! ### Expressions, which are built from tokens by the precedence of their operators -/

/-- A number with a sign: more than that, less than that, or just that. -/
structure Amount where
  sign : Ordering
  value : Nat
deriving DecidableEq, Repr

def Amount.holds (amount : Amount) (number : Nat) : Bool :=
  compare number amount.value = amount.sign

/-- Which bits of a mode are wanted. -/
inductive Bits where
  | exactly (bits : Nat)
  | all (bits : Nat)
  | any (bits : Nat)
deriving DecidableEq, Repr

def Bits.hold (mode : Nat) : Bits → Bool
  | .exactly bits => mode = bits
  | .all bits => mode &&& bits = bits
  | .any bits => bits = 0 || mode &&& bits ≠ 0

structure Padding where
  width : Nat := 0
  toLeft : Bool := false
  withZeros : Bool := false
deriving DecidableEq, Repr

inductive Piece where
  | text (text : Raw)
  | directive (letter : Char) (padding : Padding)
  /-- Nothing more is printed. -/
  | stop
deriving DecidableEq, Repr

/-- What can be asked about a file or done with it. -/
inductive Primary where
  | constant (value : Bool)
  | name (pattern : Wildcard) (anyCase : Bool)
  | path (pattern : Wildcard) (anyCase : Bool)
  | linkText (pattern : Wildcard) (anyCase : Bool)
  | fits (pattern : TextPattern)
  /-- The letters of kinds; links may count as what they lead to. -/
  | kind (letters : List Char) (behind : Bool)
  | empty
  | size (amount : Amount) (unit : Nat)
  | newer (time : Nat)
  | mode (bits : Bits)
  | names (amount : Amount)
  | allows (bit : Nat)
  | same (identity : Stream)
  /-- When it was changed, in units of so many seconds. -/
  | age (amount : Amount) (unit : Nat)
  | print (ending : Char)
  | present (pieces : List Piece)
  /-- A command for every file, in the directory of the file or not. -/
  | execute (command : List Raw) (inside : Bool)
  /-- A command for many files at once. -/
  | gather (number : Nat) (command : List Raw)
  | delete
  | prune
  | quit

/-- The primary does something, so that files are not printed without being asked for. -/
def Primary.isAction : Primary → Bool
  | .print _ | .present _ | .execute _ _ | .gather _ _ | .delete => true
  | _ => false

/-- What is looked for and done. -/
inductive Expression where
  | primary (primary : Primary)
  | not (body : Expression)
  | and (first second : Expression)
  | or (first second : Expression)
  /-- Both, of which only the second one counts. -/
  | both (first second : Expression)

inductive Operator where
  | comma
  | or
  | and
deriving DecidableEq, Repr

/-- How tightly an operator binds. -/
def Operator.rank : Operator → Nat
  | .comma => 1
  | .or => 2
  | .and => 3

def Operator.join (first second : Expression) : Operator → Expression
  | .comma => .both first second
  | .or => .or first second
  | .and => .and first second

inductive Token where
  | primary (primary : Primary)
  | not (written : Raw)
  | operator (operator : Operator) (written : Raw)
  | opening
  | closing

def Token.ends : Token → Bool
  | .primary _ | .closing => true
  | _ => false

def Token.starts : Token → Bool
  | .primary _ | .not _ | .opening => true
  | _ => false

/-- Tokens with the operators that need not be written. -/
def joinNeighbours : List Token → List Token
  | first :: second :: rest =>
    if first.ends && second.starts then
      first :: .operator .and "-a".toList :: joinNeighbours (second :: rest)
    else first :: joinNeighbours (second :: rest)
  | tokens => tokens

/-- Tokens that are left, and the way they were written before them. -/
structure Rest where
  tokens : List Token
  before : Raw

def Token.written : Token → Raw
  | .not written | .operator _ written => written
  | .opening => ['(']
  | .closing => [')']
  | .primary _ => []

mutual

/-- Builds the next expression, up to an operator that binds no tighter than `rank`. If `prints`, files
are to be printed at the end, so that it is known after what an expression is missing. -/
def build (prints : Bool) : (fuel rank : Nat) → Rest → Except Raw (Expression × Rest)
  | 0, _, _ => .error "invalid expression".toList
  | fuel + 1, rank, rest => do
    let isAfterOperator := !rest.before.isEmpty && rest.before ≠ ['('] && rest.before ≠ [')']
    match rest.tokens with
    | [] =>
      if prints && !rest.before.isEmpty then
        throw ("expected an expression after '".toList ++ rest.before ++ ['\x27'])
      else throw "invalid expression".toList
    | .operator _ written :: _ =>
      throw ("invalid expression; you have used a binary operator '".toList ++ written ++
        "' with nothing before it.".toList)
    | .closing :: _ =>
      if isAfterOperator then
        throw ("expected an expression between '".toList ++ rest.before ++ "' and ')'".toList)
      else throw "invalid expression; you have too many ')'".toList
    | .primary primary :: tokens => extend prints fuel rank (.primary primary) ⟨tokens, []⟩
    | .not written :: tokens =>
      let (body, rest) ← build prints fuel 4 ⟨tokens, written⟩
      extend prints fuel rank (.not body) rest
    | .opening :: tokens =>
      match tokens with
      | [] =>
        throw ("invalid expression; expected to find a ')' but didn't see one. Perhaps you need " ++
          "an extra predicate after '('").toList
      | .closing :: _ => throw "invalid expression; empty parentheses are not allowed.".toList
      | tokens =>
        let (body, rest) ← build prints fuel 0 ⟨tokens, ['(']⟩
        match rest.tokens with
        | .closing :: tokens => extend prints fuel rank body ⟨tokens, [')']⟩
        | _ =>
          throw ("invalid expression; I was expecting to find a ')' somewhere but did not " ++
            "see one.").toList

/-- Extends an expression by operators that bind tighter than `rank`. -/
def extend (prints : Bool) : (fuel rank : Nat) → Expression → Rest →
    Except Raw (Expression × Rest)
  | 0, _, first, rest => .ok (first, rest)
  | fuel + 1, rank, first, rest => do
    match rest.tokens with
    | .operator operator written :: tokens =>
      if operator.rank ≤ rank then return (first, rest)
      else
        let (second, rest) ← build prints fuel operator.rank ⟨tokens, written⟩
        extend prints fuel rank (operator.join first second) rest
    | _ => return (first, rest)

end

def Expression.ofTokens (prints : Bool) (tokens : List Token) : Except Raw Expression := do
  let tokens := joinNeighbours tokens
  let (expression, rest) ← build prints (3 * tokens.length + 3) 0 ⟨tokens, []⟩
  match rest.tokens with
  | [] => return expression
  | _ => throw "you have too many ')'".toList

/-! ### Reading what is told -/

inductive Following where
  | never
  /-- Those that are given as starting points. -/
  | given
  | always
deriving DecidableEq, Repr

structure Request where
  following : Following := .never
  /-- What is in a directory comes before it. -/
  depthFirst : Bool := false
  least : Nat := 0
  most : Option Nat := none
  /-- The latest token comes first. -/
  tokens : List Token := []
  /-- The name of the last predicate. -/
  last : Raw := []
  /-- How many commands for many files there are. -/
  gathered : Nat := 0
  /-- Operators of patterns stand by themselves. -/
  isExtended : Bool := false
  /-- It was said that directories are to come last. -/
  saidDepth : Bool := false

/-- A word between the quotes that go with predicates. -/
def tagged (word : Raw) : Raw :=
  '\x60' :: word ++ ['\x27']

def plainQuoted (text : Raw) : Raw :=
  Options.quoted text

/-- The word is part of an expression, at its start or later. -/
def isExpression (isStart : Bool) (word : Raw) : Bool :=
  match word with
  | '-' :: _ :: _ | ['('] | ['!'] => true
  | [')'] | [','] => !isStart
  | _ => false

def argument (word : Raw) : List Raw → Utility (Raw × List Raw)
  | [] => die 1 ("missing argument to ".toList ++ tagged word)
  | value :: rest => return (value, rest)

/-- The amount at the start of a text, and what comes after it. -/
def Amount.read? (text : Raw) : Option (Amount × Raw) :=
  let (sign, digits) := match text with
    | '+' :: rest => (Ordering.gt, rest)
    | '-' :: rest => (Ordering.lt, rest)
    | rest => (Ordering.eq, rest)
  let run := digits.takeWhile Char.isDigit
  if run.isEmpty then none else some (⟨sign, Raw.digitsValue run⟩, digits.drop run.length)

def readAmount (word value : Raw) : Utility Amount := do
  match Amount.read? value with
  | some (amount, []) => return amount
  | _ => die 1 ("invalid argument ".toList ++ tagged value ++ " to ".toList ++ tagged word)

def readSize (value : Raw) : Utility (Amount × Nat) := do
  if value.isEmpty then die 1 "invalid null argument to -size".toList
  let (body, unit) := match value.getLast?, value.dropLast with
    | some 'b', body => (body, some 512)
    | some 'c', body => (body, some 1)
    | some 'w', body => (body, some 2)
    | some 'k', body => (body, some 1024)
    | some 'M', body => (body, some 0x100000)
    | some 'G', body => (body, some 0x40000000)
    | some c, body => if c.isDigit then (value, some 512) else (body, none)
    | none, body => (body, none)
  match unit with
  | none => die 1 ("invalid -size type ".toList ++ tagged (value.drop (value.length - 1)))
  | some unit =>
    match Amount.read? body with
    | some (amount, []) => return (amount, unit)
    | _ => die 1 ("Invalid argument ".toList ++ tagged value ++ " to -size".toList)

def readKinds (word : Raw) : (isFirst : Bool) → Raw → Utility (List Char)
  | isFirst, [] =>
    if isFirst then
      die 1 ("Arguments to ".toList ++ word ++ " should contain at least one letter".toList)
    else
      die 1 ("Last file type in list argument to ".toList ++ word ++
        " is missing, i.e., list is ending on: ','".toList)
  | _, c :: rest => do
    if !"bcdflps".toList.contains c then
      die 1 ("Unknown argument to ".toList ++ word ++ ": ".toList ++ [c])
    match rest with
    | [] => return [c]
    | ',' :: rest => return c :: (← readKinds word false rest)
    | _ => die 1 ("Must separate multiple arguments to ".toList ++ word ++ " using: ','".toList)

def readBits (value : Raw) : Utility Bits := do
  let wrong : Utility Bits := die 1 ("invalid mode ".toList ++ plainQuoted value)
  let bits? (text : Raw) : Option Nat :=
    (Mode.read? text).map fun changes => Mode.adjust changes false 0 0
  match value with
  | '-' :: text => (bits? text).elim wrong fun bits => return .all bits
  | '/' :: text =>
    match bits? text with
    | none => wrong
    | some bits =>
      if bits = 0 then
        complain ("warning: you have specified a mode pattern ".toList ++ value ++
          (" (which is equivalent to /000). The meaning of -perm /000 has now been changed " ++
            "to be consistent with -perm -000; that is, while it used to match no files, it " ++
            "now matches all files.").toList)
      return .any bits
  | '+' :: digits =>
    if digits.head?.any Char.isDigit then wrong
    else (bits? value).elim wrong fun bits => return .exactly bits
  | text => (bits? text).elim wrong fun bits => return .exactly bits

/-- What a letter after a backslash stands for in a format. -/
def formatEscape? : Char → Option Char
  | 'a' => some '\x07'
  | 'b' => some '\x08'
  | 'f' => some '\x0c'
  | 'n' => some '\n'
  | 'r' => some '\r'
  | 't' => some '\t'
  | 'v' => some '\x0b'
  | '\\' => some '\\'
  | _ => none

def directives : List Char := "dfghHiklmMnpPsuUGyY%".toList

def Padding.read (text : Raw) : Padding × Raw :=
  let flags := text.takeWhile fun c => "-+ #0".toList.contains c
  let rest := text.drop flags.length
  let digits := rest.takeWhile Char.isDigit
  let after := rest.drop digits.length
  let after := match after with
    | '.' :: more => more.dropWhile Char.isDigit
    | after => after
  ({ width := Raw.digitsValue digits, toLeft := flags.contains '-'
     withZeros := flags.contains '0' }, after)

def readFormat : (fuel : Nat) → Raw → Utility (List Piece)
  | 0, _ | _ + 1, [] => return []
  | fuel + 1, '\\' :: rest => do
    match rest with
    | 'c' :: _ => return [.stop]
    | [] =>
      complain "warning: escape `\\' followed by nothing at all".toList
      return [.text ['\\']]
    | c :: after =>
      let digits := (rest.take 3).takeWhile Mode.isOctal
      if !digits.isEmpty then
        let c := Char.ofNat (Mode.octalValue digits % 256)
        return .text [c] :: (← readFormat fuel (rest.drop digits.length))
      else
        match formatEscape? c with
        | some c => return .text [c] :: (← readFormat fuel after)
        | none =>
          complain ("warning: unrecognized escape ".toList ++ tagged ['\\', c])
          return .text ['\\', c] :: (← readFormat fuel after)
  | fuel + 1, '%' :: rest => do
    let (padding, after) := Padding.read rest
    match after with
    | [] => die 1 "error: % at end of format string".toList
    | '%' :: after => return .text ['%'] :: (← readFormat fuel after)
    | letter :: after =>
      if directives.contains letter then
        return .directive letter padding :: (← readFormat fuel after)
      else
        complain ("warning: unrecognized format directive ".toList ++ tagged ['%', letter])
        return .text ['%', letter] :: (← readFormat fuel after)
  | fuel + 1, c :: rest => do
    let run := rest.takeWhile fun c => c ≠ '\\' && c ≠ '%'
    return .text (c :: run) :: (← readFormat fuel (rest.drop run.length))

/-- Two curly brackets, which stand for the path of a file. -/
def slot : Raw := ['\x7b', '\x7d']

/-- A text holds the sign for the path of a file. -/
def holdsSlot : Raw → Bool
  | '\x7b' :: rest => rest.head? = some '\x7d' || holdsSlot rest
  | _ :: rest => holdsSlot rest
  | [] => false

def readCommand (request : Request) (word : Raw) (inside : Bool) (words : List Raw) :
    Utility (Primary × Request × List Raw) := do
  let missing : Utility (Primary × Request × List Raw) :=
    die 1 ("missing argument to ".toList ++ tagged word)
  let rec split (taken : List Raw) : List Raw → Option (List Raw × Bool × List Raw)
    | [] => none
    | [';'] :: rest => some (taken.reverse, false, rest)
    | next :: rest =>
      if next = ['+'] && taken.head?.any holdsSlot then some (taken.reverse, true, rest)
      else split (next :: taken) rest
  match split [] words with
  | none => missing
  | some ([], _, _) => die 1 ("invalid argument `;' to ".toList ++ tagged word)
  | some (command, false, rest) => return (.execute command inside, request, rest)
  | some (command, true, rest) =>
    let last := command.getLast?
    let command := if last = some slot then command.dropLast else command
    if command.contains slot then
      die 1 ("Only one instance of \x7b\x7d is supported with ".toList ++ word ++ " ... +".toList)
    match command.find? holdsSlot with
    | some part =>
      die 1 ("In ".toList ++ plainQuoted (word ++ " ... \x7b\x7d +".toList) ++
        " the '\x7b\x7d' must appear by itself, but you specified ".toList ++ plainQuoted part)
    | none =>
      if inside then return (.execute (command ++ [slot]) true, request, rest)
      else
        let number := request.gathered
        return (.gather number command, { request with gathered := number + 1 }, rest)

/-- The identity of a file and when it was changed. -/
def known (follow : Bool) (path : Raw) : Utility (Stream × Nat) := do
  match ← statusOf path follow with
  | .ok status => return (status.identity, status.modified)
  | .error error => die 1 (because (quoteWord path) error)

def readPattern (request : Request) (anyCase : Bool) (text : Raw) : Utility Primary := do
  let grammar : TextPattern.Grammar :=
    if request.isExtended then { isExtended := true, isStrict := false, isLax := true }
    else { isStrict := false, hasPlainRepeats := true }
  match TextPattern.read grammar text with
  | .ok pattern => return .fits (if anyCase then pattern.inAnyCase else pattern)
  | .error complaint =>
    die 1 ("failed to compile regular expression ".toList ++ plainQuoted text ++ ": ".toList ++
      complaint.toList)

def patternTypes : List String :=
  ["findutils-default", "ed", "emacs", "gnu-awk", "grep", "posix-awk", "awk", "posix-basic",
   "posix-egrep", "egrep", "posix-extended", "posix-minimal-basic", "sed"]

/-- The number of levels that an option tells. -/
def readLevels (word value : Raw) : Utility Nat := do
  if value.isEmpty || !value.all Char.isDigit then
    die 1 ("Expected a positive decimal integer argument to ".toList ++ word ++ ", but got ".toList ++
      plainQuoted value)
  return Raw.digitsValue value

/-- Takes one predicate or operator, with its arguments. -/
def takeToken (request : Request) (word : Raw) (rest : List Raw) :
    Utility (Request × List Raw) := do
  let before := request
  let request := { request with last := word }
  let add (token : Token) (rest : List Raw) : Utility (Request × List Raw) :=
    return ({ request with tokens := token :: before.tokens }, rest)
  let addPrimary (primary : Primary) (rest : List Raw) := add (.primary primary) rest
  let always (request : Request) (rest : List Raw) : Utility (Request × List Raw) :=
    return ({ request with tokens := .primary (.constant true) :: before.tokens }, rest)
  let withArgument (make : Raw → Utility Primary) : Utility (Request × List Raw) := do
    let (value, rest) ← argument word rest
    addPrimary (← make value) rest
  let wildcard (make : Wildcard → Bool → Primary) (anyCase : Bool) :=
    withArgument fun value =>
      return make (Wildcard.ofArgument (if anyCase then value.map Char.toLower else value)) anyCase
  let aged (unit : Nat) := withArgument fun value => return .age (← readAmount word value) unit
  match String.ofList word with
  | "(" => add .opening rest
  | ")" => add .closing rest
  | "!" | "-not" => add (.not word) rest
  | "-a" | "-and" => add (.operator .and word) rest
  | "-o" | "-or" => add (.operator .or word) rest
  | "," => add (.operator .comma word) rest
  | "-true" => addPrimary (.constant true) rest
  | "-false" | "-nouser" | "-nogroup" => addPrimary (.constant false) rest
  | "-name" => wildcard .name false
  | "-iname" => wildcard .name true
  | "-path" | "-wholename" => wildcard .path false
  | "-ipath" | "-iwholename" => wildcard .path true
  | "-lname" => wildcard .linkText false
  | "-ilname" => wildcard .linkText true
  | "-regex" => withArgument (readPattern request false)
  | "-iregex" => withArgument (readPattern request true)
  | "-regextype" =>
    let (value, rest) ← argument word rest
    let isExtended := ["posix-egrep", "egrep", "posix-extended", "posix-awk", "awk", "gnu-awk"].any
      (·.toList = value)
    if patternTypes.all (·.toList ≠ value) then
      let names := Raw.join ", ".toList (patternTypes.map fun name => plainQuoted name.toList)
      die 1 ("Unknown regular expression type ".toList ++ plainQuoted value ++
        "; valid types are ".toList ++ names ++ ['.'])
    always { request with isExtended } rest
  | "-type" => withArgument fun value => return .kind (← readKinds word true value) false
  | "-xtype" => withArgument fun value => return .kind (← readKinds word true value) true
  | "-empty" => addPrimary .empty rest
  | "-size" => withArgument fun value => do
    let (amount, unit) ← readSize value
    return .size amount unit
  | "-newer" | "-anewer" | "-cnewer" | "-newermm" => withArgument fun value => do
    return .newer (← known (request.following ≠ .never) value).2
  | "-newermt" => withArgument fun value => do
    match Moment.ofText? (Storage.startTime * 1000 : Nat) value with
    | some time => return .newer (time / 1000).toNat
    | none => die 1 ("I cannot figure out how to interpret ".toList ++ plainQuoted value ++
        " as a date or time".toList)
  | "-samefile" => withArgument fun value => do
    return .same (← known (request.following ≠ .never) value).1
  | "-perm" => withArgument fun value => return .mode (← readBits value)
  | "-links" => withArgument fun value => return .names (← readAmount word value)
  | "-readable" => addPrimary (.constant true) rest
  | "-writable" => addPrimary (.constant true) rest
  | "-executable" => addPrimary (.allows 0o111) rest
  | "-user" | "-group" => withArgument fun value => do
    if value = "root".toList then return .constant true
    else if !value.isEmpty && value.all Char.isDigit then
      return .constant (Raw.digitsValue value = 0)
    else
      let kind := if word = "-user".toList then "a known user" else "an existing group"
      die 1 (quoteWord value ++ " is not the name of ".toList ++ kind.toList)
  | "-uid" | "-gid" => withArgument fun value => do
    return .constant ((← readAmount word value).holds 0)
  | "-mtime" | "-atime" | "-ctime" => aged 86400
  | "-mmin" | "-amin" | "-cmin" => aged 60
  | "-print" => addPrimary (.print '\n') rest
  | "-print0" => addPrimary (.print '\x00') rest
  | "-printf" => withArgument fun value => return .present (← readFormat (value.length + 1) value)
  | "-exec" | "-execdir" =>
    let (primary, request, rest) ← readCommand request word (word = "-execdir".toList) rest
    return ({ request with tokens := .primary primary :: before.tokens }, rest)
  | "-delete" =>
    let (request, rest) ← addPrimary .delete rest
    return ({ request with depthFirst := true }, rest)
  | "-prune" => addPrimary .prune rest
  | "-quit" => addPrimary .quit rest
  | "-depth" | "-d" => always { request with depthFirst := true, saidDepth := true } rest
  | "-follow" => always { request with following := .always } rest
  | "-maxdepth" =>
    let (value, rest) ← argument word rest
    always { request with most := some (← readLevels word value) } rest
  | "-mindepth" =>
    let (value, rest) ← argument word rest
    always { request with least := ← readLevels word value } rest
  | "-daystart" | "-ignore_readdir_race" | "-mount" | "-noignore_readdir_race" | "-noleaf"
  | "-nowarn" | "-warn" | "-xdev" => always request rest
  | _ => die 1 ("unknown predicate ".toList ++ tagged word)

def takeTokens : (fuel : Nat) → Request → List Raw → Utility Request
  | 0, request, _ | _ + 1, request, [] => return request
  | fuel + 1, request, word :: rest => do
    if !isExpression false word then
      complain ("paths must precede expression: ".toList ++ tagged word)
      match ← statusOf word true with
      | .ok _ =>
        complain ("possible unquoted pattern after predicate ".toList ++ tagged request.last ++ ['?'])
      | .error _ => pure ()
      exit 1
    let (request, rest) ← takeToken request word rest
    takeTokens fuel request rest

/-- The request, the starting points and the expression that arguments make. -/
def readRequest (arguments : List Raw) : Utility (Request × List Raw × Expression) := do
  let (following, arguments) := takeFollowing .never arguments
  let paths := arguments.takeWhile fun word => !isExpression true word
  let request ← takeTokens arguments.length { following } (arguments.drop paths.length)
  let primaries := request.tokens.filterMap fun
    | .primary primary => some primary
    | _ => none
  let isPruned : Bool := primaries.any fun
    | .prune => true
    | _ => false
  let isDeleted : Bool := primaries.any fun
    | .delete => true
    | _ => false
  if isPruned && isDeleted && !request.saidDepth then
    die 1 ("The -delete action automatically turns on -depth, but -prune does nothing when " ++
      "-depth is in effect.  If you want to carry on anyway, just explicitly use the -depth " ++
      "option.").toList
  let prints := !primaries.any Primary.isAction
  let printing : Expression := .primary (.print '\n')
  let paths := if paths.isEmpty then [['.']] else paths
  match request.tokens with
  | [] => return (request, paths, printing)
  | tokens =>
    match Expression.ofTokens prints tokens.reverse with
    | .error complaint => die 1 complaint
    | .ok expression =>
      return (request, paths, if prints then .and expression printing else expression)
where
  /-- Takes the options that say which links are followed. -/
  takeFollowing (following : Following) : List Raw → Following × List Raw
    | ['-', 'H'] :: rest => takeFollowing .given rest
    | ['-', 'L'] :: rest => takeFollowing .always rest
    | ['-', 'P'] :: rest => takeFollowing .never rest
    | ['-', 'O', _] :: rest => takeFollowing following rest
    | ['-', '-'] :: rest => (following, rest)
    | rest => (following, rest)

end WheelInstaller.Utility.Finding
