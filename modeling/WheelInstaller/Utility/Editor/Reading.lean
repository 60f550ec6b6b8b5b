import WheelInstaller.Utility.Editor.Script
import WheelInstaller.Utility.TextPattern

/-! Reading scripts. A script may come in several portions, and a text at the end of one of them may go on
in the next one. -/

namespace WheelInstaller.Utility.Editor

/-- What is wrong with a script, and how much of the portion was not read yet. -/
structure Fault where
  message : Raw
  /-- Nothing, if the place does not matter. -/
  left : Option Nat
  /-- What the script was going to write until then. -/
  targets : List Target := []

/-- Reading a portion of a script. -/
abbrev Reader := StateT Raw (Except Fault)

namespace Reader

def fail {α : Type} (message : String) : Reader α := do
  throw { message := message.toList, left := some (← get).length }

/-- Reading where a fault tells what the script was going to write. -/
def noting {α : Type} (targets : List Target) (work : Reader α) : Reader α := fun text =>
  match work text with
  | .ok found => .ok found
  | .error fault => .error { fault with targets := targets ++ fault.targets }

def next : Reader (Option Char) := do
  match ← get with
  | [] => return none
  | c :: rest =>
    set rest
    return some c

def putBack (c : Option Char) : Reader Unit :=
  modify fun rest => c.toList ++ rest

/-- The next character that is no blank. -/
def nextSolid : Reader (Option Char) := do
  modify fun text => text.dropWhile fun c => c = ' ' || c = '\t'
  next

/-- The number that starts with a character; no digit counts as zero, and is put back. -/
def number (c : Option Char) : Reader Nat := do
  putBack c
  let digits := (← get).takeWhile Char.isDigit
  modify fun rest => rest.drop digits.length
  return Raw.digitsValue digits

/-- Nothing may follow a command on its line, apart from a comment or the end of a block. -/
def endCommand : Reader Unit := do
  match ← nextSolid with
  | none | some '\n' | some ';' => return ()
  | some '\x7d' => putBack (some '\x7d')
  | some '#' => putBack (some '#')
  | some _ => fail "extra characters after command"

def restOfLine : Reader Raw := do
  let text := (← get).takeWhile (· ≠ '\n')
  modify fun rest => (rest.drop text.length).drop 1
  return text

/-- A name of a label, after blanks. A label that is jumped to also ends with its block. -/
def label (inBlock : Bool) : Reader Raw := do
  modify fun text => text.dropWhile fun c => c = ' ' || c = '\t'
  let name := (← get).takeWhile fun c =>
    !Raw.isSpace c && c ≠ ';' && !(inBlock && c = '\x7d')
  modify fun rest => rest.drop name.length
  return name

/-- The name of a file, up to the end of the line. -/
def fileName : Reader Raw := do
  modify fun text => text.dropWhile fun c => c = ' ' || c = '\t'
  let name ← restOfLine
  if name.isEmpty then fail "missing filename in r/R/w/W commands" else return name

end Reader

inductive BracketPlace where
  | plain
  /-- After another opening bracket. -/
  | opened
  /-- In something named, which a character and a bracket end. -/
  | named (mark : Char)
  /-- After that character. -/
  | closing (mark : Char)

/-- The text of brackets up to their end, the latest first, and the text after it. -/
def takeBrackets : BracketPlace → (found : Raw) → Raw → Option (Raw × Raw)
  | _, _, [] => none
  | place, found, c :: rest =>
    let isMark := c = '.' || c = ':' || c = '='
    match place, c with
    | _, '\n' => none
    | .plain, ']' | .opened, ']' => some (']' :: found, rest)
    | .closing _, ']' => takeBrackets .plain (']' :: found) rest
    | .plain, '[' => takeBrackets .opened ('[' :: found) rest
    | .opened, c =>
      takeBrackets (if isMark then .named c else if c = '[' then .opened else .plain)
        (c :: found) rest
    | .named mark, c => takeBrackets (if c = mark then .closing mark else .named mark) (c :: found) rest
    | .closing mark, c => takeBrackets (.named mark) (c :: found) rest
    | .plain, c => takeBrackets .plain (c :: found) rest

def takeWholeBrackets (text : Raw) : Option (Raw × Raw) :=
  let (found, text) := match text with
    | '^' :: rest => (['^'], rest)
    | text => ([], text)
  let (found, text) := match text with
    | ']' :: rest => (']' :: found, rest)
    | text => (found, text)
  takeBrackets .plain found text

/-- The text up to a mark, the latest character first, and the text after it. -/
def takeMarked (mark : Char) (isPattern : Bool) : (fuel : Nat) → (found : Raw) → Raw →
    Except Raw (Raw × Raw)
  | 0, _, text => .error text
  | _ + 1, _, [] => .error []
  | fuel + 1, found, c :: rest =>
    if c = '\n' then .error (c :: rest)
    else if c = mark then .ok (found, rest)
    else if c = '\\' then
      match rest with
      | [] => .error []
      | next :: rest =>
        if next = 'n' && isPattern then takeMarked mark isPattern fuel ('\n' :: found) rest
        else
          let isBare := next = '\n' || (next = mark && (isPattern || next ≠ '&'))
          let found := if isBare then found else '\\' :: found
          takeMarked mark isPattern fuel (next :: found) rest
    else if c = '[' && isPattern then
      match takeWholeBrackets rest with
      | some (inner, rest) => takeMarked mark isPattern fuel (inner ++ '[' :: found) rest
      | none => .error (rest.dropWhile (· ≠ '\n'))
    else takeMarked mark isPattern fuel (c :: found) rest

def Reader.marked (mark : Char) (isPattern : Bool) (complaint : String) : Reader Raw := do
  let text ← get
  match takeMarked mark isPattern (text.length + 1) [] text with
  | .ok (found, rest) =>
    set rest
    return found.reverse
  | .error rest =>
    set rest
    fail complaint

inductive TextKind where
  | pattern
  | replacement
  | plain
deriving DecidableEq

/-- A character that a number told, with a backslash before it where it would mean something. -/
def told (kind : TextKind) (value : Nat) : Raw :=
  let c := Char.ofNat (value % 256)
  if kind = .replacement && (c = '&' || c = '\\') then ['\\', c] else [c]

/-- The number of at most `count` digits, if there is any, and the text after them. -/
def takeNumber? (base count : Nat) (text : Raw) : Option (Nat × Raw) :=
  let digit? (c : Char) : Option Nat :=
    let value :=
      if c.isDigit then c.toNat - 48
      else if 'a' ≤ c && c ≤ 'f' then c.toNat - 87
      else if 'A' ≤ c && c ≤ 'F' then c.toNat - 55
      else 99
    if value < base then some value else none
  let digits := (text.take count).takeWhile fun c => (digit? c).isSome
  if digits.isEmpty then none
  else
    some (digits.foldl (fun value c => base * value + (digit? c).getD 0) 0, text.drop digits.length)

/-- Replaces what stands for characters that cannot be seen, in at most `fuel` steps. -/
def showHidden (kind : TextKind) : (fuel : Nat) → Raw → Raw
  | 0, text => text
  | _ + 1, [] => []
  | fuel + 1, '\\' :: c :: rest =>
    let number (base count : Nat) : Raw :=
      match takeNumber? base count rest with
      | some (value, rest) => told kind value ++ showHidden kind fuel rest
      | none => '\\' :: c :: showHidden kind fuel rest
    match c with
    | 'a' => '\x07' :: showHidden kind fuel rest
    | 'f' => '\x0c' :: showHidden kind fuel rest
    | 'n' => '\n' :: showHidden kind fuel rest
    | 'r' => '\r' :: showHidden kind fuel rest
    | 't' => '\t' :: showHidden kind fuel rest
    | 'v' => '\x0b' :: showHidden kind fuel rest
    | 'x' => number 16 2
    | 'o' => number 8 3
    | 'd' => number 10 3
    | 'c' =>
      match rest with
      | [] => ['\\', 'c']
      | letter :: rest => told kind (letter.toUpper.toNat ^^^ 64) ++ showHidden kind fuel rest
    | c => '\\' :: c :: showHidden kind fuel rest
  | fuel + 1, c :: rest => c :: showHidden kind fuel rest

/-- The text where characters that cannot be seen stand for themselves. -/
def shownText (kind : TextKind) (text : Raw) : Raw :=
  showHidden kind text.length text

def withoutBackslashes : Raw → Raw
  | '\\' :: c :: rest => c :: withoutBackslashes rest
  | c :: rest => c :: withoutBackslashes rest
  | [] => []

structure Form where
  isExtended : Bool := false
  /-- A text may have several lines. -/
  hasLines : Bool := true

structure PatternFlags where
  anyCase : Bool := false
  byLine : Bool := false

def Reader.pattern (form : Form) (flags : PatternFlags) (text : Raw) :
    Reader ScriptPattern := do
  if text.isEmpty then
    if flags.anyCase || flags.byLine then fail "cannot specify modifiers on empty regexp"
    return none
  else
    let byLine := flags.byLine && form.hasLines
    match TextPattern.read { isExtended := form.isExtended, byLine } (shownText .pattern text) with
    | .ok pattern => return some (if flags.anyCase then pattern.inAnyCase else pattern)
    | .error complaint => fail complaint

/-- Reads the pieces of a replacement, with the latest piece and the characters of a text first. -/
def piecesFrom : (found : List Piece) → (text : Raw) → Raw → List Piece
  | found, text, [] => (pushText found text).reverse
  | found, text, ['\\'] => (pushText found ('\\' :: text)).reverse
  | found, text, '\\' :: c :: rest =>
    let goOn (piece : Piece) : List Piece := piecesFrom (piece :: pushText found text) [] rest
    if c.isDigit then goOn (.part (c.toNat - 48))
    else
      match c with
      | 'L' => goOn (.letters (some .lower))
      | 'U' => goOn (.letters (some .upper))
      | 'E' => goOn (.letters none)
      | 'l' => goOn (.letter .lower)
      | 'u' => goOn (.letter .upper)
      | c => piecesFrom found (c :: text) rest
  | found, text, '&' :: rest => piecesFrom (.part 0 :: pushText found text) [] rest
  | found, text, c :: rest => piecesFrom found (c :: text) rest
where
  /-- The pieces with a text, whose characters are told with the latest first. -/
  pushText (found : List Piece) (text : Raw) : List Piece :=
    if text.isEmpty then found else .text text.reverse :: found

def Target.ofName (name : Raw) : Target :=
  if name = "/dev/stdout".toList then .output
  else if name = "/dev/stderr".toList then .complaints
  else .file name

def Reader.substitutionFlags : (fuel : Nat) → Substitution → (counted : Bool) → PatternFlags →
    Reader (Substitution × PatternFlags)
  | 0, substitution, _, flags => return (substitution, flags)
  | fuel + 1, substitution, counted, flags => do
    match ← next with
    | none | some '\n' | some ';' => return (substitution, flags)
    | some ' ' => substitutionFlags fuel substitution counted flags
    | some 'i' | some 'I' => substitutionFlags fuel substitution counted { flags with anyCase := true }
    | some 'm' | some 'M' => substitutionFlags fuel substitution counted { flags with byLine := true }
    | some 'p' =>
      if substitution.prints then fail "multiple \x60p' options to \x60s' command"
      substitutionFlags fuel { substitution with prints := true } counted flags
    | some 'g' =>
      if substitution.everywhere then fail "multiple \x60g' options to \x60s' command"
      substitutionFlags fuel { substitution with everywhere := true } counted flags
    | some 'w' =>
      let target := Target.ofName (← fileName)
      return ({ substitution with target := some target }, flags)
    | some '\x7d' =>
      putBack (some '\x7d')
      return (substitution, flags)
    | some '#' =>
      putBack (some '#')
      return (substitution, flags)
    | some c =>
      if c.isDigit then
        if counted then fail "multiple number options to \x60s' command"
        let first ← number (some c)
        if first = 0 then fail "number option to \x60s' command may not be zero"
        substitutionFlags fuel { substitution with first } true flags
      else fail "unknown option to \x60s'"

def Reader.substitution (form : Form) : Reader Action := do
  let unterminated := "unterminated \x60s' command"
  match ← next with
  | none => fail unterminated
  | some mark =>
    let text ← marked mark true unterminated
    let replacement ← marked mark false unterminated
    let pieces := piecesFrom [] [] (shownText .replacement replacement)
    let empty : Substitution := { pattern := none, pieces }
    let (substitution, flags) ← substitutionFlags ((← get).length + 1) empty false {}
    noting substitution.target.toList do
      let pattern ← pattern form flags text
      let largest := largestPart pieces
      if pattern.any fun pattern => pattern.partCount < largest then
        throw { message := partComplaint largest, left := some (← get).length }
      return .substitute { substitution with pattern }

def translationText (text : Raw) : Raw :=
  withoutBackslashes (shownText .plain text)

def Reader.translation : Reader Action := do
  let unterminated := "unterminated \x60y' command"
  match ← next with
  | none => fail unterminated
  | some mark =>
    let source := translationText (← marked mark false unterminated)
    let target := translationText (← marked mark false unterminated)
    if source.length ≠ target.length then
      fail "strings for \x60y' command are different lengths"
    endCommand
    return .translate (source.zip target)

def Reader.addressFlags : (fuel : Nat) → PatternFlags → Reader PatternFlags
  | 0, flags => return flags
  | fuel + 1, flags => do
    match ← nextSolid with
    | some 'I' => addressFlags fuel { flags with anyCase := true }
    | some 'M' => addressFlags fuel { flags with byLine := true }
    | c =>
      putBack c
      return flags

/-- Reads an address that starts with a character, if it is one. -/
def Reader.address (form : Form) (c : Option Char) : Reader (Option RangeEnd) := do
  match c with
  | some '/' => fitting '/'
  | some '\\' =>
    match ← next with
    | some mark => fitting mark
    | none => fail "unterminated address regex"
  | some '$' => return some (.reaching .last)
  | some '+' => return some (.after (← number (← nextSolid)))
  | some '~' => return some (.multiple (← number (← nextSolid)))
  | some c =>
    if c.isDigit then
      let first ← number (some c)
      match ← nextSolid with
      | some '~' =>
        let step ← number (← nextSolid)
        return some (.reaching (if step = 0 then .number first else .every first step))
      | other =>
        putBack other
        return some (.reaching (.number first))
    else return none
  | none => return none
where
  /-- Reads a pattern up to a mark. -/
  fitting (mark : Char) : Reader (Option RangeEnd) := do
    let text ← marked mark true "unterminated address regex"
    let flags ← addressFlags ((← get).length + 1) {}
    return some (.reaching (.fits (← pattern form flags text)))

/-- Reads the addresses that start with a character. Tells the first character after them. -/
def Reader.lines (form : Form) (c : Option Char) : Reader (Selection × Option Char) := do
  let (lines, c) ← match ← address form c with
    | none => pure (({} : Selection), c)
    | some (.reaching first) =>
      let (last, c) ← match ← nextSolid with
        | some ',' =>
          match ← address form (← nextSolid) with
          | none => fail "unexpected \x60,'"
          | some last => pure (some last, ← nextSolid)
        | c => pure (none, c)
      let isPattern : Bool := match last with
        | some (.reaching (.fits _)) => true
        | _ => false
      let isZero : Bool := match first with
        | .number 0 => true
        | _ => false
      if isZero && !isPattern then fail "invalid usage of line address 0"
      pure ({ first := some first, last }, c)
    | some _ => fail "invalid usage of +N or ~N as first address"
  match c with
  | some '!' =>
    match ← nextSolid with
    | some '!' => fail "multiple \x60!'s"
    | c => return ({ lines with negated := true }, c)
  | c => return (lines, c)

/-- Reads a text up to a line end without a backslash, the latest character first, and tells whether it
goes on in the next portion. -/
def takeText : (found : Raw) → Raw → Raw × Bool × Raw
  | found, [] => ('\n' :: found, false, [])
  | found, ['\\'] => ('\n' :: found, true, [])
  | found, '\\' :: c :: rest => takeText (c :: '\\' :: found) rest
  | found, '\n' :: rest => ('\n' :: found, false, rest)
  | found, c :: rest => takeText (c :: found) rest

/-- The text that stands in a script. -/
def finishText (found : Raw) : Raw :=
  withoutBackslashes (shownText .plain found)

structure Progress where
  /-- The latest step comes first. -/
  steps : List Step := []
  count : Nat := 0
  /-- The numbers of the blocks that are open, and how they are complained about. -/
  blocks : List (Nat × Raw) := []
  /-- The text of the latest step goes on: what was read of it, the latest first. -/
  pending : Option Raw := none
  /-- The script says that lines are not printed. -/
  isQuiet : Bool := false

namespace Progress

def add (progress : Progress) (lines : Selection) (action : Action) : Progress :=
  { progress with steps := ⟨lines, action⟩ :: progress.steps, count := progress.count + 1 }

def withText (text : Raw) : Action → Action
  | .append _ => .append text
  | .insert _ => .insert text
  | .change _ => .change text
  | action => action

def setText (progress : Progress) (found : Raw) : Progress :=
  match progress.steps with
  | step :: steps =>
    let text := finishText found.reverse
    { progress with steps := { step with action := withText text step.action } :: steps }
  | [] => progress

end Progress

def Reader.moreText (progress : Progress) (found : Raw) : Reader Progress := do
  let (found, goesOn, rest) := takeText found (← get)
  set rest
  return { progress.setText found with pending := if goesOn then some found else none }

def Reader.text (progress : Progress) : Reader Progress := do
  match ← nextSolid with
  | none => fail "expected \\ after \x60a', \x60c' or \x60i'"
  | some '\\' =>
    match (← get).dropWhile fun c => c = ' ' || c = '\t' with
    | '\n' :: rest =>
      set rest
      moreText progress []
    | [] =>
      set ([] : Raw)
      return { progress with pending := some [] }
    | _ => return ← moreText progress []
  | c =>
    putBack c
    moreText progress []

/-- The version whose scripts are understood. -/
def version : List Nat := [4, 9]

def isLater (text : Raw) : Bool :=
  let numbers := (Raw.split '.' text).map Raw.digitsValue
  !text.isEmpty && decide (version < numbers)

/-- Commands that are only a letter. -/
def plainAction? : Char → Option Action
  | '=' => some .printNumber
  | 'd' => some .delete
  | 'D' => some .deleteFirst
  | 'F' => some .printName
  | 'g' => some .take
  | 'G' => some .takeMore
  | 'h' => some .keep
  | 'H' => some .keepMore
  | 'n' => some .next
  | 'N' => some .nextMore
  | 'p' => some .print
  | 'P' => some .printFirst
  | 'z' => some .clear
  | 'x' => some .exchange
  | _ => none

def closeBlock (progress : Progress) (start : Nat) (rest : List (Nat × Raw)) : Progress :=
  let steps := progress.steps.zipIdx.map fun (step, place) =>
    if progress.count - 1 - place = start then { step with action := .block (progress.count + 1) }
    else step
  { progress with steps, blocks := rest }

def Reader.command (form : Form) (placeOf : Raw → Raw) (progress : Progress) (lines : Selection)
    (c : Option Char) : Reader Progress := do
  let takesNumber (make : Option Nat → Action) : Reader Progress := do
    let c ← nextSolid
    let value ←
      if c.any Char.isDigit then do pure (some (← number c))
      else do
        putBack c
        pure none
    endCommand
    return progress.add lines (make value)
  match c with
  | none => fail "missing command"
  | some '#' =>
    if lines.first.isSome then fail "comments don't accept any addresses"
    let _ ← restOfLine
    return progress
  | some '\x7b' =>
    let place := placeOf (← get)
    return { progress.add lines (.block 0) with blocks := (progress.count, place) :: progress.blocks }
  | some '\x7d' =>
    match progress.blocks with
    | [] => fail "unexpected \x60\x7d'"
    | (start, _) :: rest =>
      if lines.first.isSome then fail "\x7d doesn't want any addresses"
      endCommand
      return (closeBlock progress start rest).add lines .blockEnd
  | some 'a' => text (progress.add lines (.append []))
  | some 'i' => text (progress.add lines (.insert []))
  | some 'c' => text (progress.add lines (.change []))
  | some 'v' =>
    if isLater (← label true) then fail "expected newer version of sed"
    return progress
  | some ':' =>
    if lines.first.isSome then fail ": doesn't want any addresses"
    let name ← label false
    if name.isEmpty then fail "\":\" lacks a label"
    return progress.add lines (.label name)
  | some 'b' => return progress.add lines (.jump .always (← label true) none)
  | some 't' => return progress.add lines (.jump (.replaced true) (← label true) none)
  | some 'T' => return progress.add lines (.jump (.replaced false) (← label true) none)
  | some 'q' =>
    if lines.last.isSome then fail "command only uses one address"
    takesNumber fun status => .quit true (status.getD 0)
  | some 'Q' =>
    if lines.last.isSome then fail "command only uses one address"
    takesNumber fun status => .quit false (status.getD 0)
  | some 'l' => takesNumber .list
  | some 'r' => return progress.add lines (.readFile (← fileName))
  | some 'R' => return progress.add lines (.readLine (← fileName))
  | some 'w' => return progress.add lines (.write (.ofName (← fileName)))
  | some 'W' => return progress.add lines (.writeFirst (.ofName (← fileName)))
  | some 's' => return progress.add lines (← substitution form)
  | some 'y' => return progress.add lines (← translation)
  | some c =>
    match plainAction? c with
    | some action =>
      endCommand
      return progress.add lines action
    | none => fail ("unknown command: \x60" ++ String.singleton c ++ "'")

/-- Reads commands to the end of the portion. -/
def Reader.commands (form : Form) (placeOf : Raw → Raw) : (fuel : Nat) → Progress →
    Reader Progress
  | 0, progress => return progress
  | fuel + 1, progress => do
    modify fun text => text.dropWhile fun c => c = ';' || Raw.isSpace c
    match ← next with
    | none => return progress
    | c =>
      let progress ← noting (progress.steps.flatMap (·.action.targets)) do
        let (lines, c) ← lines form c
        command form placeOf progress lines c
      commands form placeOf fuel progress

inductive Origin where
  /-- The arguments, with the number of the portion. -/
  | argument (number : Nat)
  | file (name : Raw)

/-- The words for a place, where so much of a portion is left. -/
def Origin.place (origin : Origin) (portion : Raw) (left : Option Nat) : Raw :=
  let used := left.map (portion.length - ·)
  match origin with
  | .argument number =>
    "-e expression #".toList ++ Raw.ofNat number ++ ", char ".toList ++ Raw.ofNat (used.getD 0)
  | .file name =>
    let before := portion.take (used.getD 0)
    "file ".toList ++ name ++ " line ".toList ++ Raw.ofNat (before.count '\n' + 1)

/-- Reads a portion of a script after others. A complaint comes with what the script was going to
write. -/
def Progress.read (progress : Progress) (form : Form) (origin : Origin) (portion : Raw) :
    Except (Raw × List Target) Progress :=
  let openPlace (rest : Raw) : Raw :=
    match origin with
    | .argument number => Origin.place (.argument number) portion none
    | .file name => Origin.place (.file name) portion (some rest.length)
  let isFirst := progress.count = 0 && progress.pending.isNone
  let isQuiet : Bool := match portion with
    | ['#', 'n'] | '#' :: 'n' :: '\n' :: _ => isFirst
    | _ => false
  let reading : Reader Progress := do
    let progress ← match progress.pending with
      | some found => Reader.moreText progress found
      | none => pure progress
    Reader.commands form openPlace (portion.length + 1) progress
  match reading portion with
  | .ok (progress, _) => .ok { progress with isQuiet := progress.isQuiet || isQuiet }
  | .error fault =>
    .error (origin.place portion fault.left ++ ": ".toList ++ fault.message, fault.targets)

/-- The steps of a script whose portions were all read, or the status for what is wrong with it. -/
def Progress.finish (progress : Progress) : Except (Nat × Raw) Script :=
  match progress.blocks with
  | (_, place) :: _ => .error (1, place ++ ": unmatched \x60\x7b'".toList)
  | [] =>
    let steps := progress.steps.reverse
    let target? (name : Raw) : Option Nat :=
      if name.isEmpty then some steps.length
      else
        steps.findIdx? fun step => match step.action with
          | .label known => known = name
          | _ => false
    let resolve (step : Step) : Except (Nat × Raw) Step :=
      match step.action with
      | .jump kind name _ =>
        match target? name with
        | some place => .ok { step with action := .jump kind name (some place) }
        | none => .error (4, "can't find label for jump to \x60".toList ++ name ++ ['\x27'])
      | _ => .ok step
    (steps.mapM resolve).map List.toArray

end WheelInstaller.Utility.Editor
