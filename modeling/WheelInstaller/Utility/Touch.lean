import WheelInstaller.Utility.Moment
import WheelInstaller.Utility.Options
import WheelInstaller.Utility.Quoting

/-! `mktemp`: files and directories under names that nobody else has. -/

namespace WheelInstaller.Utility.Temporary

open Process

structure Settings where
  isDirectory : Bool := false
  isDry : Bool := false
  isQuiet : Bool := false
  /-- Where the template belongs; nothing means the usual place. -/
  place : Option (Option Raw) := none
  isName : Bool := false
  ending : Option Raw := none

def options : Options where
  letters := Options.plainLetters "dqtuV" ++ Options.valuedLetters "p"
  words := [("directory", .plain, "d"), ("dry-run", .plain, "u"), ("quiet", .plain, "q"),
    ("suffix", .valued, "suffix"), ("tmpdir", .optional, "tmpdir")]

def Settings.take (settings : Settings) (key : String) (value : Raw) : Utility Settings :=
  let place := if value.isEmpty then none else some value
  return match key with
  | "d" => { settings with isDirectory := true }
  | "u" => { settings with isDry := true }
  | "q" => { settings with isQuiet := true }
  | "t" => { settings with place := some (settings.place.getD none), isName := true }
  | "suffix" => { settings with ending := some value }
  | _ => { settings with place := some place }

/-- The characters that may stand in the place of the ones that are left open. -/
def alphabet : Raw :=
  "abcdefghijklmnopqrstuvwxyzABCDEFGHIJKLMNOPQRSTUVWXYZ0123456789".toList

/-- So many characters that a number stands for. -/
def letters : (count number : Nat) → Raw
  | 0, _ => []
  | count + 1, number =>
    let next := (number * 6364136223846793005 + 1442695040888963407) % 0x10000000000000000
    alphabet.getD (next / 0x100000000 % 62) 'a' :: letters count next

/-- A template: what is fixed at the start, how many characters are open, and the end. -/
structure Template where
  start : Raw
  count : Nat
  ending : Raw

def readTemplate (settings : Settings) (text : Raw) : Utility Template := do
  let behind := match settings.ending with
    | some _ => []
    | none => (text.reverse.takeWhile (· ≠ 'X')).reverse
  if settings.ending.isSome && text.getLast? ≠ some 'X' then
    die 1 ("with --suffix, template ".toList ++ quoteName text ++ " must end in X".toList)
  let front := text.take (text.length - behind.length)
  let count := (front.reverse.takeWhile (· = 'X')).length
  let ending := behind ++ settings.ending.getD []
  if ending.contains '/' && 0 < count then
    die 1 ("invalid suffix ".toList ++ quoteName ending ++ ", contains directory separator".toList)
  if count < 3 then die 1 ("too few X's in template ".toList ++ quoteName text)
  return { start := front.take (front.length - count), count, ending }

/-- Makes what nobody has made yet, and tells its name. -/
def make (settings : Settings) (template : Template) : (tries number : Nat) →
    Utility (Except OsError Raw)
  | 0, _ => return .error .alreadyExists
  | tries + 1, number => do
    let name := template.start ++ letters template.count number ++ template.ending
    let path : Path := ⟨Raw.toString name⟩
    let outcome : Except OsError Unit ←
      if settings.isDry then
        match ← statusOf name false with
        | .ok _ => pure (.error .alreadyExists)
        | .error _ => pure (.ok ())
      else if settings.isDirectory then ask (.makeDirectory path 0o700)
      else
        match ← ask (.open path .make 0o600) with
        | .ok descriptor =>
          close descriptor
          pure (.ok ())
        | .error error => pure (.error error)
    match outcome with
    | .ok () => return .ok name
    | .error .alreadyExists => make settings template tries (number * 31 + 17)
    | .error error => return .error error

/-- `mktemp`. -/
def run (arguments : List Raw) : Utility Unit := do
  let (settings, operands) ← readOptions options 1 ({} : Settings) Settings.take arguments
  let (text, settings) ← match operands with
    | [] => pure ("tmp.XXXXXXXXXX".toList, { settings with place := some (settings.place.getD none) })
    | [text] => pure (text, settings)
    | _ => misuse 1 "too many templates".toList
  let template ← readTemplate settings text
  let told := ((← state).environment.find? (·.1 = "TMPDIR".toList)).map (·.2)
  let usual := match told with
    | some (c :: rest) => c :: rest
    | _ => "/tmp".toList
  let front ← match settings.place with
    | none => pure []
    | some place =>
      if settings.isName && text.contains '/' then
        die 1 ("invalid template, ".toList ++ quoteName text ++
          ", contains directory separator".toList)
      if !settings.isName && text.head? = some '/' then
        die 1 ("invalid template, ".toList ++ quoteName text ++
          "; with --tmpdir, it may not be absolute".toList)
      let place := if settings.isName && told.isSome then usual else place.getD usual
      pure (if place.getLast? = some '/' then place else place ++ ['/'])
  let template := { template with start := front ++ template.start }
  let (number, _) ← ask .numbers
  match ← make settings template 1000 (number * 1000003 + 7) with
  | .ok name => printLine name
  | .error error =>
    if settings.isQuiet then mark 1
    else
      let what := if settings.isDirectory then "directory" else "file"
      fault (because (("failed to create " ++ what ++ " via template ").toList ++
        quoteName (front ++ text ++ settings.ending.getD [])) error)

end WheelInstaller.Utility.Temporary

/-! `touch`: files that were changed at some time, and are made if they are not there. -/

namespace WheelInstaller.Utility.Touch

open Process

inductive Source where
  | now
  | file (path : Raw)
  | words (text : Raw)
  | digits (text : Raw)
deriving DecidableEq, Repr

structure Settings where
  /-- Nothing is made. -/
  keeps : Bool := false
  /-- Links themselves are meant. -/
  links : Bool := false
  /-- Only the time of the last reading is changed. -/
  onlyReading : Bool := false
  sources : List Source := []

def options : Options where
  letters := [('a', .plain), ('c', .plain), ('d', .valued), ('f', .plain), ('h', .plain),
    ('m', .plain), ('r', .valued), ('t', .valued)]
  words := [("date", .valued, "d"), ("no-create", .plain, "c"), ("no-dereference", .plain, "h"),
    ("reference", .valued, "r"), ("time", .valued, "time")]

def timeWords : List (String × Char) :=
  [("atime", 'a'), ("access", 'a'), ("use", 'a'), ("mtime", 'm'), ("modify", 'm')]

def take (settings : Settings) (key : String) (value : Raw) : Utility Settings := do
  let add (source : Source) : Settings :=
    { settings with sources := settings.sources ++ [source] }
  match key with
  | "a" => return { settings with onlyReading := true }
  | "c" => return { settings with keeps := true }
  | "h" => return { settings with links := true, keeps := true }
  | "m" => return { settings with onlyReading := false }
  | "d" => return add (.words value)
  | "r" => return add (.file value)
  | "t" => return add (.digits value)
  | "time" =>
    let kind ← chooseWord 1 "--time" value timeWords
    return { settings with onlyReading := kind = 'a' }
  | _ => return settings

/-- The current time, as far as dates are concerned. -/
def currentTime : Nat := Storage.startTime

def currentYear : Nat := (Moment.read currentTime).year.toNat

/-- The time that the settings ask for, if it is not the current one. -/
def timeOf (settings : Settings) : Utility (Option Nat) := do
  match settings.sources with
  | [] | [.now] => return none
  | [.file path] =>
    match ← statusOf path (!settings.links) with
    | .ok status => return some status.modified
    | .error error =>
      die 1 (because ("failed to get attributes of ".toList ++ quoteName path) error)
  | [.words text] =>
    match Moment.ofText? (currentTime * 1000 : Nat) text with
    | some time => return some (time / 1000).toNat
    | none => die 1 ("invalid date format ".toList ++ quoteWord text)
  | [.digits text] =>
    match Moment.ofDigits? currentYear text with
    | some time => return some time
    | none => die 1 ("invalid date format ".toList ++ quoteWord text)
  | _ => misuse 1 "cannot specify times from more than one source".toList

def touchOne (settings : Settings) (time : Option Nat) (path : Raw) : Utility Unit := do
  if path = ['-'] then return ()
  let refusal ←
    if settings.keeps then pure none
    else
      match ← ask (.open ⟨Raw.toString path⟩ .append 0o666) with
      | .ok descriptor =>
        close descriptor
        pure none
      | .error error => pure (some error)
  let target : Path := ⟨Raw.toString path⟩
  let found ← statusOf path (!settings.links)
  let outcome : Except OsError Unit ← match found with
    | .error error => pure (.error error)
    | .ok _ =>
      if settings.onlyReading then pure (.ok ())
      else do pure (← ask (.setTime target (!settings.links) time))
  match outcome with
  | .ok () => return ()
  | .error error =>
    match refusal with
    | some cause =>
      if cause = .isDirectory then
        fault (because ("setting times of ".toList ++ quoteName path) error)
      else fault (because ("cannot touch ".toList ++ quoteName path) cause)
    | none =>
      if !(settings.keeps && !settings.links && error = .notFound) then
        fault (because ("setting times of ".toList ++ quoteName path) error)

/-- `touch`. -/
def run (arguments : List Raw) : Utility Unit := do
  let (settings, operands) ← readOptions options 1 ({} : Settings) take arguments
  let time ← timeOf settings
  if operands.isEmpty then misuse 1 "missing file operand".toList
  operands.forM (touchOne settings time)

end WheelInstaller.Utility.Touch

/-! `truncate`: files of a given size. -/

namespace WheelInstaller.Utility.Extent

open Process

/-- How a size is told. -/
inductive Aim where
  | exactly
  | more
  | less
  | atMost
  | atLeast
  | multipleBelow
  | multipleAbove
deriving DecidableEq, Repr

def greatest : Nat := 0x7fffffffffffffff

structure Settings where
  keeps : Bool := false
  byBlocks : Bool := false
  example? : Option Raw := none
  size : Option (Aim × Nat) := none

def options : Options where
  letters := Options.plainLetters "co" ++ Options.valuedLetters "rs"
  words := [("no-create", .plain, "c"), ("io-blocks", .plain, "o"), ("reference", .valued, "r"),
    ("size", .valued, "s")]

/-- Reads how a size is told, up to its sign. -/
def readMark (text : Raw) : Option Aim × Raw :=
  let rest (text : Raw) : Raw := text.dropWhile Raw.isSpace
  match rest text with
  | '<' :: text => (some .atMost, rest text)
  | '>' :: text => (some .atLeast, rest text)
  | '/' :: text => (some .multipleBelow, rest text)
  | '%' :: text => (some .multipleAbove, rest text)
  | text => (none, text)

def Settings.take (settings : Settings) (key : String) (value : Raw) : Utility Settings := do
  match key with
  | "c" => return { settings with keeps := true }
  | "o" => return { settings with byBlocks := true }
  | "r" => return { settings with example? := some value }
  | _ =>
    let (mark, text) := readMark value
    let sign : Option Aim := match text.head? with
      | some '+' => some .more
      | some '-' => some .less
      | _ => none
    if mark.isSome && sign.isSome then misuse 1 "multiple relative modifiers specified".toList
    let aim := (mark.or sign).getD .exactly
    let refuse (reason : String) : Utility Settings :=
      die 1 ("Invalid number: ".toList ++ quoteWord text ++ reason.toList)
    let tooLarge := ": Value too large for defined data type"
    let digits := if sign.isSome then text.tail else text
    if sign.isSome && !digits.head?.any Char.isDigit then refuse ""
    else
      match parseSize "EgGkKmMPQRtTYZ0" digits with
      | .ok size =>
        let bound := if sign = some .less then greatest + 1 else greatest
        if bound < size then refuse tooLarge
        else if size = 0 && (mark = some .multipleBelow || mark = some .multipleAbove) then
          die 1 "division by zero".toList
        else return { settings with size := some (aim, size) }
      | .error .tooLarge => refuse tooLarge
      | .error .invalid => refuse ""

/-- The new size of something that has a size already. -/
def Aim.apply (before size : Nat) : Aim → Nat
  | .exactly => size
  | .more => before + size
  | .less => before - size
  | .atMost => min before size
  | .atLeast => max before size
  | .multipleBelow => before / size * size
  | .multipleAbove => (before + size - 1) / size * size

/-- Gives a file its size. -/
def resize (settings : Settings) (example? : Option Nat) (name : Raw) : Utility Unit := do
  let path : Path := ⟨Raw.toString name⟩
  let isThere ← match ← statusOf name true with
    | .ok _ => pure true
    | .error error => pure (error ≠ .notFound)
  if isThere || !settings.keeps then
    match ← ask (.open path .update 0o666) with
    | .error error =>
      fault (because ("cannot open ".toList ++ quoteName name ++ " for writing".toList) error)
    | .ok descriptor =>
      let bytes ← match ← readAll descriptor with
        | .ok bytes => pure bytes
        | .error _ => pure .empty
      close descriptor
      let unit := if settings.byBlocks then 4096 else 1
      let size := match settings.size, example? with
        | some (aim, size), example? => aim.apply (example?.getD bytes.size) (size * unit)
        | none, example? => example?.getD bytes.size
      let filler : ByteArray := ⟨(List.replicate (size - bytes.size) 0).toArray⟩
      match ← ask (.open path .replace 0o666) with
      | .error error => fault (because (showName name) error)
      | .ok descriptor =>
        let _ ← ask (.write descriptor (bytes.extract 0 size ++ filler))
        close descriptor

/-- `truncate`. -/
def run (arguments : List Raw) : Utility Unit := do
  let (settings, names) ← readOptions options 1 ({} : Settings) Settings.take arguments
  if settings.size.isNone && settings.example?.isNone then
    misuse 1 "you must specify either '--size' or '--reference'".toList
  if settings.example?.isSome && settings.size.any (·.1 = .exactly) then
    misuse 1 "you must specify a relative '--size' with '--reference'".toList
  if settings.byBlocks && settings.size.isNone then
    misuse 1 "'--io-blocks' was specified but '--size' was not".toList
  if names.isEmpty then misuse 1 "missing file operand".toList
  let known ← match settings.example? with
    | none => pure none
    | some name =>
      match ← statusOf name true with
      | .ok status => pure (some status.size)
      | .error error => die 1 (because ("cannot stat ".toList ++ quoteName name) error)
  names.forM (resize settings known)

end WheelInstaller.Utility.Extent
