import WheelInstaller.Utility.Options
import WheelInstaller.Utility.Order

/-! `sort`: lines in an order of choice. -/

namespace WheelInstaller.Utility.Sort

open Process

/-- How two texts are compared. -/
structure Manner where
  /-- Blanks at the start, or at the end of a field, do not count. -/
  skipsStart : Bool := false
  skipsEnd : Bool := false
  dictionary : Bool := false
  printable : Bool := false
  folds : Bool := false
  numeric : Bool := false
  general : Bool := false
  human : Bool := false
  month : Bool := false
  version : Bool := false
  random : Bool := false
  reverse : Bool := false
deriving DecidableEq, Repr

/-- A part of lines by which they are compared. Without an end, it goes up to the end of the line. -/
structure Key where
  /-- How many fields and then characters are before its start. -/
  startField : Nat := 0
  startChar : Nat := 0
  /-- The number of the last field, and of the last character in it. -/
  stop : Option (Nat × Nat) := none
  manner : Manner := {}

structure Settings where
  manner : Manner := {}
  keys : List Key := []
  separator : Option Char := none
  unique : Bool := false
  stable : Bool := false
  /-- Only check the order, with or without telling where it is broken. -/
  checks : Option Char := none
  output : Option Raw := none
  lineEnd : Char := '\n'
  merges : Bool := false

/-- The manner with a letter, if there is such a letter. -/
def Manner.take? (manner : Manner) (start stop : Bool) (letter : Char) : Option Manner :=
  match letter with
  | 'b' => some { manner with
      skipsStart := manner.skipsStart || start, skipsEnd := manner.skipsEnd || stop }
  | 'd' => some { manner with dictionary := true }
  | 'f' => some { manner with folds := true }
  | 'g' => some { manner with general := true }
  | 'h' => some { manner with human := true }
  | 'i' => some { manner with printable := true }
  | 'M' => some { manner with month := true }
  | 'n' => some { manner with numeric := true }
  | 'R' => some { manner with random := true }
  | 'r' => some { manner with reverse := true }
  | 'V' => some { manner with version := true }
  | _ => none

/-- Takes letters as long as they are known. -/
def Manner.takeAll (manner : Manner) (start stop : Bool) : Raw → Manner × Raw
  | [] => (manner, [])
  | c :: rest =>
    match manner.take? start stop c with
    | some manner => manner.takeAll start stop rest
    | none => (manner, c :: rest)

/-- The manner has nothing that could be compared in another way than usual. -/
def Manner.isUsual (manner : Manner) : Bool :=
  { manner with reverse := false } = ({} : Manner)

/-- The letters of a manner that cannot stand together, if there are any. -/
def Manner.conflict? (manner : Manner) : Option Raw :=
  let rest := manner.version || manner.random || manner.dictionary || manner.printable
  let count := ([manner.numeric, manner.general, manner.human, manner.month, rest].filter id).length
  let letters := [(manner.dictionary, 'd'), (manner.folds, 'f'), (manner.general, 'g'),
    (manner.human, 'h'), (manner.printable && !manner.dictionary, 'i'), (manner.month, 'M'),
    (manner.numeric, 'n'), (manner.random, 'R'), (manner.version, 'V')]
  if 1 < count then some ((letters.filter (·.1)).map (·.2)) else none

def readNumber (about : String) (text : Raw) : Except Raw (Nat × Raw) :=
  let digits := text.takeWhile Char.isDigit
  if digits.isEmpty then
    .error (about.toList ++ ": invalid count at start of ".toList ++ quoteWord text)
  else .ok (Raw.digitsValue digits, text.drop digits.length)

def badKey (about : String) (text : Raw) : Raw :=
  about.toList ++ ": invalid field specification ".toList ++ quoteWord text

def readKey (text : Raw) : Except Raw Key := do
  let (field, rest) ← readNumber "invalid number at field start" text
  if field = 0 then throw (badKey "field number is zero" text)
  let (char, rest) ← match rest with
    | '.' :: rest => readNumber "invalid number after '.'" rest
    | rest => pure (1, rest)
  if char = 0 then throw (badKey "character offset is zero" text)
  let (manner, rest) := ({} : Manner).takeAll true false rest
  let key : Key := { startField := field - 1, startChar := char - 1, manner }
  match rest with
  | [] => return key
  | ',' :: rest =>
    let (field, rest) ← readNumber "invalid number after ','" rest
    if field = 0 then throw (badKey "field number is zero" text)
    let (char, rest) ← match rest with
      | '.' :: rest => readNumber "invalid number after '.'" rest
      | rest => pure (0, rest)
    let (manner, rest) := manner.takeAll false true rest
    if !rest.isEmpty then throw (badKey "stray character in field spec" text)
    return { key with stop := some (field, char), manner }
  | _ => throw (badKey "stray character in field spec" text)

def skipFields (separator : Option Char) : (count : Nat) → Raw → Raw
  | 0, text => text
  | count + 1, text =>
    match separator with
    | some c => skipFields separator count ((text.dropWhile (· ≠ c)).drop 1)
    | none =>
      skipFields separator count
        ((text.dropWhile Order.isBlank).dropWhile fun c => !Order.isBlank c)

/-- Where the last field of a key ends: how much of the line is left after it. -/
def restAfter (separator : Option Char) (skips : Bool) (field char : Nat) (line : Raw) : Nat :=
  let before := skipFields separator (field - 1) line
  if char = 0 then
    match separator with
    | some c => (before.dropWhile (· ≠ c)).length
    | none => ((before.dropWhile Order.isBlank).dropWhile fun c => !Order.isBlank c).length
  else
    let before := if skips then before.dropWhile Order.isBlank else before
    (before.drop char).length

def Key.part (separator : Option Char) (key : Key) (line : Raw) : Raw :=
  let start := skipFields separator key.startField line
  let start := if key.manner.skipsStart then start.dropWhile Order.isBlank else start
  let start := start.drop key.startChar
  match key.stop with
  | none => start
  | some (field, char) =>
    let rest := restAfter separator key.manner.skipsEnd field char line
    start.take (start.length - rest)

/-- The characters of a text that count, as they count. -/
def Manner.seen (manner : Manner) (text : Raw) : Raw :=
  let kept :=
    if manner.dictionary then text.filter fun c => c.isAlphanum || Order.isBlank c
    else if manner.printable then text.filter isPrintable
    else text
  if manner.folds then kept.map Char.toUpper else kept

/-- The order of two parts. -/
def Manner.order (manner : Manner) (first second : Raw) : Ordering :=
  let found :=
    if manner.numeric then Order.numeric first second
    else if manner.general then Order.general first second
    else if manner.human then Order.human first second
    else if manner.month then Order.month first second
    else if manner.version then Order.version first second
    else Raw.order (manner.seen first) (manner.seen second)
  if manner.reverse then found.swap else found

structure Line where
  text : Raw
  parts : List (Manner × Raw)

def byParts : List (Manner × Raw) → List (Manner × Raw) → Ordering
  | (manner, first) :: firsts, (_, second) :: seconds =>
    (manner.order first second).then (byParts firsts seconds)
  | _, _ => .eq

/-- The keys in effect: those without a manner of their own take the common one. -/
def Settings.effectiveKeys (settings : Settings) : List Key :=
  if settings.keys.isEmpty then
    if settings.manner.isUsual then [] else [{ manner := settings.manner }]
  else
    settings.keys.map fun key =>
      if key.manner.isUsual && !key.manner.reverse then { key with manner := settings.manner }
      else key

def Settings.prepare (settings : Settings) (text : Raw) : Line where
  text
  parts := settings.effectiveKeys.map fun key =>
    (key.manner, key.part settings.separator text)

/-- The order of lines by what they are to be sorted by. -/
def Settings.keyOrder (settings : Settings) (first second : Line) : Ordering :=
  if first.parts.isEmpty then
    let found := Raw.order first.text second.text
    if settings.manner.reverse then found.swap else found
  else byParts first.parts second.parts

/-- The order of lines. Lines that are equal by their keys are compared as a whole. -/
def Settings.order (settings : Settings) (first second : Line) : Ordering :=
  let found := settings.keyOrder first second
  if settings.unique || settings.stable then found
  else
    found.then <|
      let whole := Raw.order first.text second.text
      if settings.manner.reverse then whole.swap else whole

/-- The lines without those that equal the line before them. -/
def dropEqual (settings : Settings) : (kept : List Line) → List Line → List Line
  | kept, [] => kept.reverse
  | [], line :: rest => dropEqual settings [line] rest
  | last :: kept, line :: rest =>
    if settings.keyOrder last line = .eq then dropEqual settings (last :: kept) rest
    else dropEqual settings (line :: last :: kept) rest

def options : Options where
  letters := Options.plainLetters "bcCdfghimMnrRsuVz" ++ Options.valuedLetters "kotSTy"
  words := [
    ("ignore-leading-blanks", .plain, "b"), ("check", .optional, "check"),
    ("compress-program", .valued, "ignored"), ("debug", .plain, "ignored"),
    ("dictionary-order", .plain, "d"), ("ignore-case", .plain, "f"),
    ("files0-from", .valued, "ignored"), ("general-numeric-sort", .plain, "g"),
    ("ignore-nonprinting", .plain, "i"), ("key", .valued, "k"), ("merge", .plain, "m"),
    ("month-sort", .plain, "M"), ("numeric-sort", .plain, "n"),
    ("human-numeric-sort", .plain, "h"), ("version-sort", .plain, "V"),
    ("random-sort", .plain, "R"), ("random-source", .valued, "ignored"),
    ("sort", .valued, "sort"), ("output", .valued, "o"), ("reverse", .plain, "r"),
    ("stable", .plain, "s"), ("batch-size", .valued, "ignored"),
    ("buffer-size", .valued, "S"), ("field-separator", .valued, "t"),
    ("temporary-directory", .valued, "T"), ("unique", .plain, "u"),
    ("zero-terminated", .plain, "z"), ("parallel", .valued, "ignored")]

def Settings.take (settings : Settings) (key : String) (value : Raw) : Utility Settings := do
  let withLetter (letter : Char) : Settings :=
    match settings.manner.take? true true letter with
    | some manner => { settings with manner }
    | none => settings
  let withCheck (letter : Char) : Utility Settings := do
    if settings.checks.any (· ≠ letter) then
      die 2 "options '-cC' are incompatible".toList
    return { settings with checks := some letter }
  match key with
  | "c" => withCheck 'c'
  | "C" => withCheck 'C'
  | "check" =>
    let letter ← if value.isEmpty then pure 'c' else
      chooseWord 2 "--check" value [("quiet", 'C'), ("silent", 'C'), ("diagnose-first", 'c')]
    withCheck letter
  | "sort" =>
    let letter ← chooseWord 2 "--sort" value
      [("general-numeric", 'g'), ("human-numeric", 'h'), ("month", 'M'), ("numeric", 'n'),
       ("random", 'R'), ("version", 'V')]
    return withLetter letter
  | "k" =>
    match readKey value with
    | .ok key => return { settings with keys := settings.keys ++ [key] }
    | .error message => die 2 message
  | "m" => return { settings with merges := true }
  | "o" =>
    if settings.output.any (· ≠ value) then die 2 "multiple output files specified".toList
    return { settings with output := some value }
  | "s" => return { settings with stable := true }
  | "t" =>
    let c ← match value with
      | [] => die 2 "empty tab".toList
      | [c] => pure c
      | ['\\', '0'] => pure '\x00'
      | value => die 2 ("multi-character tab ".toList ++ quoteWord value)
    if settings.separator.any (· ≠ c) then die 2 "incompatible tabs".toList
    return { settings with separator := some c }
  | "u" => return { settings with unique := true }
  | "z" => return { settings with lineEnd := '\x00' }
  | "S" | "T" | "y" | "ignored" => return settings
  | key => return withLetter (key.toList.headD 'b')

def readLines (lineEnd : Char) : List Raw → Utility (List Raw)
  | [] => return []
  | name :: rest => do
    let isInput : Bool := name == ['-']
    match ← if isInput then pure (.ok input) else openFile name with
    | .error error => die 2 (because ("cannot read: ".toList ++ showName name) error)
    | .ok descriptor =>
      match ← readAll descriptor with
      | .error .badDescriptor => die 2 (because ("stat failed: ".toList ++ showName name) .badDescriptor)
      | .error error => die 2 (because ("read failed: ".toList ++ showName name) error)
      | .ok bytes =>
        if !isInput then close descriptor
        let lines := Raw.lines lineEnd (Raw.ofBytes bytes)
        return lines ++ (← readLines lineEnd rest)

/-- Complains about files that cannot be read. -/
def checkFiles : List Raw → Utility Unit
  | [] => return ()
  | name :: rest => do
    if name ≠ ['-'] then
      match ← statusOf name true with
      | .ok _ => pure ()
      | .error error => die 2 (because ("cannot read: ".toList ++ showName name) error)
    checkFiles rest

/-- Finds the first line that is out of order, and its number. -/
def disorder? (settings : Settings) : (number : Nat) → List Line → Option (Nat × Raw)
  | number, first :: second :: rest =>
    let found := settings.order first second
    if found = .gt || (settings.unique && found = .eq) then some (number + 1, second.text)
    else disorder? settings (number + 1) (second :: rest)
  | _, _ => none

/-- Writes lines to the output, or to a file. -/
def emit (settings : Settings) (lines : List Line) : Utility Unit := do
  match settings.output with
  | none =>
    for line in lines do
      print (line.text ++ [settings.lineEnd])
  | some name =>
    match ← ask (.open ⟨Raw.toString name⟩ .replace 0o666) with
    | .error error => die 2 (because ("open failed: ".toList ++ showName name) error)
    | .ok descriptor =>
      let text := lines.flatMap fun line => line.text ++ [settings.lineEnd]
      let _ ← ask (.write descriptor (Raw.toBytes text))
      close descriptor

/-- `sort`. -/
def run (arguments : List Raw) : Utility Unit := do
  breakWith 2
  let (settings, names) ← readOptions options 2 {} Settings.take arguments
  let manners := settings.effectiveKeys.map (·.manner)
  match (settings.manner :: manners).findSome? Manner.conflict? with
  | some letters => die 2 ("options '-".toList ++ letters ++ "' are incompatible".toList)
  | none => pure ()
  let names := if names.isEmpty then [['-']] else names
  match settings.checks with
  | some letter =>
    match names.drop 1 with
    | extra :: _ =>
      die 2 ("extra operand ".toList ++ quoteName extra ++ " not allowed with -".toList ++ [letter])
    | [] => pure ()
    if settings.output.isSome then
      die 2 ("options '-".toList ++ letter :: "o' are incompatible".toList)
    checkFiles names
    let lines := (← readLines settings.lineEnd names).map settings.prepare
    match disorder? settings 1 lines with
    | none => return ()
    | some (number, line) =>
      if letter = 'c' then
        complain ((names.headD []) ++ ':' :: Raw.ofNat number ++ ": disorder: ".toList ++ line)
      exit 1
  | none =>
    checkFiles names
    let lines := (← readLines settings.lineEnd names).map settings.prepare
    let sorted := lines.mergeSort fun first second => (settings.order first second).isLE
    emit settings (if settings.unique then dropEqual settings [] sorted else sorted)

end WheelInstaller.Utility.Sort
