import WheelInstaller.Utility.Launch
import WheelInstaller.Utility.Options

/-! `xargs`: a command for the words that are read, with as many of them at once as may be. -/

namespace WheelInstaller.Utility.Batch

open Process

inductive Parting where
  /-- Blanks part words, unless quotes or backslashes keep them together. -/
  | blanks
  | every (c : Char)
deriving DecidableEq, Repr

inductive Portion where
  | arguments (count : Nat)
  | lines (count : Nat)
  /-- Every line takes the place of a text in the command. -/
  | replacing (text : Raw)
deriving DecidableEq, Repr

structure Settings where
  parting : Parting := .blanks
  /-- The word that ends the input. -/
  last : Option Raw := none
  portion : Option Portion := none
  skipsEmpty : Bool := false
  traces : Bool := false
  file : Option Raw := none
  /-- How long a command may be, each word with one character after it. -/
  limit : Nat := 131072
  /-- It is given up if a portion does not fit. -/
  exact : Bool := false
  /-- Commands share the terminal. -/
  asks : Bool := false

def options : Options where
  letters := Options.valuedLetters "aEILnPsd" ++ Options.plainLetters "0oprtx" ++
    [('e', .optional), ('i', .optional), ('l', .optional)]
  words := [
    ("null", .plain, "0"), ("arg-file", .valued, "a"), ("delimiter", .valued, "d"),
    ("eof", .optional, "e"), ("replace", .optional, "i"), ("max-lines", .optional, "l"),
    ("max-args", .valued, "n"), ("open-tty", .plain, "o"), ("interactive", .plain, "p"),
    ("no-run-if-empty", .plain, "r"), ("max-chars", .valued, "s"), ("verbose", .plain, "t"),
    ("exit", .plain, "x"), ("max-procs", .valued, "P")]
  strict := true

def readCount (letter : Char) (least : Nat) (text : Raw) : Utility Nat := do
  let trimmed := text.dropWhile Raw.isSpace
  let (negative, digits) := match trimmed with
    | '-' :: rest => (true, rest)
    | '+' :: rest => (false, rest)
    | rest => (false, rest)
  let value := Raw.digitsValue digits
  if digits.isEmpty || !digits.all Char.isDigit then
    misuse 1 ("invalid number \"".toList ++ text ++ "\" for -".toList ++ letter ::
      " option".toList)
  else if value < least || (negative && value ≠ 0) then
    misuse 1 ("value ".toList ++ text ++ " for -".toList ++ letter ::
      " option should be >= ".toList ++ Raw.ofNat least)
  else return value

def readDelimiter (text : Raw) : Utility Char := do
  let wrong : Utility Char :=
    die 1 ("Invalid input delimiter specification ".toList ++ text ++
      (": the delimiter must be either a single character or an escape sequence " ++
        "starting with \\.").toList)
  let number (base : Nat) (digits : Raw) : Utility Char := do
    if base = 8 && !digits.head?.any Char.isDigit then
      die 1 ("Invalid escape sequence ".toList ++ text ++
        " in input delimiter specification.".toList)
    let values := digits.map fun c =>
      if c.isDigit then c.toNat - '0'.toNat
      else if c.isAlpha then c.toLower.toNat - 'a'.toNat + 10
      else base
    if values.isEmpty || values.any (base ≤ ·) then wrong
    else return Char.ofNat ((values.foldl (fun value digit => base * value + digit) 0) % 256)
  match text with
  | [c] => return c
  | ['\\', c] =>
    match c with
    | 'a' => return '\x07'
    | 'b' => return '\x08'
    | 'f' => return '\x0c'
    | 'n' => return '\n'
    | 'r' => return '\r'
    | 't' => return '\t'
    | 'v' => return '\x0b'
    | '\\' => return '\\'
    | c => number 8 [c]
  | '\\' :: 'x' :: digits => number 16 digits
  | '\\' :: digits => number 8 digits
  | _ => wrong

def Portion.name : Portion → String
  | .arguments _ => "--max-args"
  | .lines _ => "--max-lines"
  | .replacing _ => "--replace"

/-- The settings with another portion, which the option of a name asks for. -/
def Settings.choose (settings : Settings) (option : String) (portion : Portion) :
    Utility Settings := do
  match settings.portion, portion with
  | some (.replacing _), .arguments 1 => return settings
  | some before, portion =>
    if before.name ≠ portion.name then
      complain ("warning: options ".toList ++ before.name.toList ++ " and ".toList ++
        option.toList ++ " are mutually exclusive, ignoring previous ".toList ++
        before.name.toList ++ " value".toList)
    return { settings with portion := some portion }
  | none, portion => return { settings with portion := some portion }

def Settings.take (settings : Settings) (key : String) (value : Raw) : Utility Settings := do
  match key with
  | "0" => return { settings with parting := .every '\x00' }
  | "d" => return { settings with parting := .every (← readDelimiter value) }
  | "a" => return { settings with file := some value }
  | "E" | "e" => return { settings with last := if value.isEmpty then none else some value }
  | "I" => settings.choose "--replace/-I/-i" (.replacing value)
  | "i" =>
    settings.choose "--replace/-I/-i" (.replacing (if value.isEmpty then ['\x7b', '\x7d'] else value))
  | "L" => settings.choose "-L" (.lines (← readCount 'L' 1 value))
  | "l" =>
    let count ← if value.isEmpty then pure 1 else readCount 'l' 1 value
    settings.choose "--max-lines/-l" (.lines count)
  | "n" => settings.choose "--max-args/-n" (.arguments (← readCount 'n' 1 value))
  | "P" =>
    let _ ← readCount 'P' 0 value
    return settings
  | "r" => return { settings with skipsEmpty := true }
  | "s" => return { settings with limit := ← readCount 's' 1 value }
  | "t" => return { settings with traces := true }
  | "p" => return { settings with traces := true, asks := true }
  | "x" => return { settings with exact := true }
  | _ => return settings

/-- Something that is met in the input. -/
inductive Found where
  | word (text : Raw)
  /-- The end of a line, which may go on in the next one. -/
  | lineEnd (continues : Bool)
  /-- The line is over within quotes. -/
  | unmatched (quote : Char)
deriving DecidableEq, Repr

inductive Mode where
  /-- Between words. -/
  | between
  | inside
  | quoted (quote : Char)
  | escaped
deriving DecidableEq, Repr

structure Reader where
  mode : Mode := .between
  /-- The current word, the latest character first. -/
  current : Raw := []
  /-- There are quotes in the line. -/
  hasQuotes : Bool := false
  /-- No word of the line is complete. -/
  isFirst : Bool := true
  /-- The character before was a blank. -/
  afterBlank : Bool := false

def isBlank (c : Char) : Bool := c = ' ' || c = '\t'

/-- What is met in a text where blanks part words, or only line ends if lines are wanted. -/
def findWords (byLine : Bool) (last : Option Raw) : Reader → Raw → List Found
  | reader, [] =>
    match reader.mode with
    | .quoted quote => if reader.current.isEmpty then [] else [.unmatched quote]
    | _ =>
      let word := reader.current.reverse
      if word.isEmpty || (reader.isFirst && last = some word) then [] else [.word word, .lineEnd true]
  | reader, c :: rest =>
    let next (mode : Mode) : Reader := { reader with mode, afterBlank := isBlank c }
    let put : Reader :=
      { reader with mode := .inside, current := c :: reader.current, afterBlank := isBlank c }
    match reader.mode with
    | .escaped => findWords byLine last put rest
    | .quoted quote =>
      if c = '\n' then [.unmatched quote]
      else if c = quote then findWords byLine last { next .inside with hasQuotes := true } rest
      else findWords byLine last { put with mode := .quoted quote } rest
    | mode =>
      if mode = .between && Raw.isSpace c then findWords byLine last (next .between) rest
      else if c = '\n' then
        let word := reader.current.reverse
        if word.isEmpty && !reader.hasQuotes then findWords byLine last (next .between) rest
        else if last = some word then []
        else
          .word word :: .lineEnd reader.afterBlank ::
            findWords byLine last { afterBlank := false } rest
      else if !byLine && isBlank c then
        let word := reader.current.reverse
        if last = some word then []
        else
          .word word :: findWords byLine last
            { next .between with current := [], isFirst := false } rest
      else if c = '\\' then findWords byLine last (next .escaped) rest
      else if c = '"' || c = '\x27' then
        findWords byLine last { next (.quoted c) with hasQuotes := true } rest
      else findWords byLine last put rest

def Settings.find (settings : Settings) (text : Raw) : List Found :=
  let byLine : Bool := match settings.portion with
    | some (.replacing _) => true
    | _ => false
  match settings.parting with
  | .blanks => findWords byLine settings.last {} text
  | .every c => (Raw.lines c text).flatMap fun word => [.word word, .lineEnd false]

structure Progress where
  /-- The words for the next command, the latest first. -/
  words : List Raw := []
  /-- How many lines they are from. -/
  lines : Nat := 0
  /-- A command was run. -/
  hasRun : Bool := false
  /-- A command has failed. -/
  hasFailed : Bool := false

/-- How long words are in a command. -/
def lengthOf (words : List Raw) : Nat :=
  words.foldl (fun total word => total + word.length + 1) 0

def execute (settings : Settings) (command : List Raw) (progress : Progress) :
    Utility Progress := do
  if settings.asks then
    die 1 "failed to open /dev/tty for reading: No such device or address".toList
  if settings.traces then
    flush
    remark (Raw.join [' '] (command.map showName) ++ ['\n'])
  let name := command.headD []
  let after := { progress with words := [], lines := 0, hasRun := true }
  match ← launch { sharesInput := settings.file.isSome } command with
  | .failed isMissing => exit (if isMissing then 127 else 126)
  | .ended (.code 0) => return after
  | .ended (.code 255) => die 124 (name ++ ": exited with status 255; aborting".toList)
  | .ended (.code _) => return { after with hasFailed := true }
  | .ended (.signal number) =>
    die 125 (name ++ ": terminated by signal ".toList ++ Raw.ofNat number)

def Settings.run (settings : Settings) (command : List Raw) (progress : Progress) :
    Utility Progress :=
  execute settings (command ++ progress.words.reverse) progress

/-- Takes one more word, and runs the command where there is no room for more. -/
def Settings.add (settings : Settings) (command : List Raw) (progress : Progress) (word : Raw) :
    Utility Progress := do
  let isTooLong := settings.limit < lengthOf command + lengthOf progress.words + word.length + 1
  let progress ←
    if isTooLong then
      if progress.words.isEmpty then
        die 1 "can not fit single argument within argument list size limit".toList
      else if settings.exact && settings.portion.isSome then die 1 "argument list too long".toList
      else settings.run command progress
    else pure progress
  let progress := { progress with words := word :: progress.words }
  match settings.portion with
  | some (.arguments count) =>
    if count ≤ progress.words.length then settings.run command progress else return progress
  | _ => return progress

/-- A text in which every occurrence of another one is replaced. -/
def replaceAll (pattern new : Raw) : (fuel : Nat) → Raw → Raw
  | 0, text => text
  | _ + 1, [] => []
  | fuel + 1, c :: rest =>
    if !pattern.isEmpty && pattern.isPrefixOf (c :: rest) then
      new ++ replaceAll pattern new fuel ((c :: rest).drop pattern.length)
    else c :: replaceAll pattern new fuel rest

/-- Complains about the input, and ends once the command was run with the words before that. -/
def Settings.giveUp (settings : Settings) (command : List Raw) (progress : Progress)
    (message : Raw) : Utility Unit := do
  complain message
  if !progress.words.isEmpty then
    let _ ← settings.run command progress
  exit 1

def Settings.each (settings : Settings) (command : List Raw) : Progress → List Found →
    Utility Progress
  | progress, [] => return progress
  | progress, .unmatched quote :: _ => do
    let kind := if quote = '"' then "double" else "single"
    settings.giveUp command progress ("unmatched ".toList ++ kind.toList ++
      " quote; by default quotes are special to xargs unless you use the -0 option".toList)
    return progress
  | progress, .word word :: rest => do
    if !word.isEmpty && settings.limit < lengthOf command + word.length + 1 then
      settings.giveUp command progress "argument line too long".toList
    match settings.portion with
    | some (.replacing pattern) =>
      let fill (part : Raw) : Raw := replaceAll pattern word part.length part
      let progress ← execute settings (command.take 1 ++ command.tail.map fill) progress
      settings.each command progress rest
    | _ => settings.each command (← settings.add command progress word) rest
  | progress, .lineEnd continues :: rest => do
    let progress := if continues then progress else { progress with lines := progress.lines + 1 }
    match settings.portion with
    | some (.lines count) =>
      if count ≤ progress.lines then
        settings.each command (← settings.run command progress) rest
      else settings.each command progress rest
    | _ => settings.each command progress rest

def Settings.readText (settings : Settings) : Utility Raw := do
  let descriptor ← match settings.file with
    | none | some ['-'] => pure input
    | some name =>
      match ← openFile name with
      | .ok descriptor => pure descriptor
      | .error error =>
        die 1 (because ("Cannot open input file ".toList ++ quoteWord name) error)
  match ← readAll descriptor with
  | .ok bytes =>
    if descriptor ≠ input then close descriptor
    return Raw.ofBytes bytes
  | .error .badDescriptor => die 1 (because "error closing file".toList .badDescriptor)
  | .error _ => die 1 "error closing file".toList

/-- `xargs`. -/
def run (arguments : List Raw) : Utility Unit := do
  let (settings, operands) ← readOptions options 1 ({} : Settings) Settings.take arguments
  let command := if operands.isEmpty then ["echo".toList] else operands
  if settings.portion = some (.replacing []) then die 1 "command too long".toList
  let found := settings.find (← settings.readText)
  let progress ← settings.each command {} found
  let isReplacing : Bool := match settings.portion with
    | some (.replacing _) => true
    | _ => false
  let isLeft := !progress.words.isEmpty || (!progress.hasRun && !settings.skipsEmpty)
  let progress ← if isLeft && !isReplacing then settings.run command progress else pure progress
  if progress.hasFailed then exit 123

end WheelInstaller.Utility.Batch
