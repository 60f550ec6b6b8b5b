import WheelInstaller.Utility.Quoting
import WheelInstaller.Utility.Options

/-! `head` and `tail`: the first or the last part of files. -/

namespace WheelInstaller.Utility.Excerpt

open Process

/-- Whether the name of a file stands above its part. -/
inductive Headers where
  /-- If there are several files. -/
  | several
  | never
  | always
deriving DecidableEq, Repr

/-- Which part of a file is printed. -/
structure Settings where
  count : Nat := 10
  /-- Lines are counted, not bytes. -/
  byLines : Bool := true
  /-- The count is seen from the other end: what is left out at the end by `head`, or where `tail`
  starts. -/
  reversed : Bool := false
  headers : Headers := .several
  /-- What ends a line. -/
  lineEnd : Char := '\n'

def units : String := "bkKmMGTPEZYRQ0"

def Settings.takeCount (settings : Settings) (byLines : Bool) (text : Raw) : Utility Settings := do
  match parseSize units text with
  | .ok count => return { settings with count, byLines }
  | .error fault =>
    let what := if byLines then "invalid number of lines" else "invalid number of bytes"
    die 1 (numberComplaint what text fault)

def title (name : Raw) : Raw :=
  if name = ['-'] then "standard input".toList else name

/-- Prints the name of a file above its part. -/
def printHeader (isFirst : Bool) (name : Raw) : Utility Unit := do
  if !isFirst then print ['\n']
  print ("==> ".toList ++ title name ++ " <==\n".toList)

/-- The complaint about a file that cannot be read. -/
def readingFault (name : Raw) (error : OsError) : Utility Unit :=
  fault (because ("error reading ".toList ++ quoteName (title name)) error)

/-- Goes through the files, and does something with what each of them leads to. -/
def eachFile (headers : Bool) (work : Raw → Nat → Utility Unit) : (isFirst : Bool) → List Raw →
    Utility Unit
  | _, [] => return ()
  | isFirst, name :: rest => do
    let isInput : Bool := name == ['-']
    match ← if isInput then pure (.ok input) else openFile name with
    | .error error =>
      fault (because ("cannot open ".toList ++ quoteName name ++ " for reading".toList) error)
      eachFile headers work isFirst rest
    | .ok descriptor =>
      if headers then printHeader isFirst name
      work name descriptor
      if !isInput then close descriptor
      eachFile headers work false rest

def Settings.hasHeaders (settings : Settings) (names : List Raw) : Bool :=
  match settings.headers with
  | .always => true
  | .never => false
  | .several => 1 < names.length

/-- The lines at the start of a text, at most as many as told, and how many are missing. -/
def takeLines (lineEnd : Char) : (count : Nat) → (taken : Raw) → Raw → Raw × Nat × Raw
  | 0, taken, rest => (taken.reverse, 0, rest)
  | count, taken, [] => (taken.reverse, count, [])
  | count + 1, taken, c :: rest =>
    if c = lineEnd then takeLines lineEnd count (c :: taken) rest
    else takeLines lineEnd (count + 1) (c :: taken) rest

/-- How much `head` reads at once. -/
def headBlock : Nat := 8192

/-- Prints the first lines of what a descriptor leads to. What was read too much is put back if that is
possible. -/
def headLines (settings : Settings) (name : Raw) (descriptor : Nat) : (rounds count : Nat) →
    Utility Unit
  | 0, _ | _ + 1, 0 => return ()
  | rounds + 1, count => do
    match ← ask (.read descriptor headBlock none) with
    | .error error => readingFault name error
    | .ok bytes =>
      if !bytes.isEmpty then
        let (taken, missing, rest) := takeLines settings.lineEnd count [] (Raw.ofBytes bytes)
        if missing = 0 && !rest.isEmpty then
          let _ ← ask (.rewind descriptor rest.length)
        print taken
        headLines settings name descriptor rounds missing

/-- Prints the first bytes of what a descriptor leads to. -/
def headBytes (name : Raw) (descriptor : Nat) : (rounds count : Nat) → Utility Unit
  | 0, _ | _ + 1, 0 => return ()
  | rounds + 1, count => do
    match ← ask (.read descriptor (min headBlock count) none) with
    | .error error => readingFault name error
    | .ok bytes =>
      if !bytes.isEmpty then
        print (Raw.ofBytes bytes)
        headBytes name descriptor rounds (count - bytes.size)

/-- Where the lines of a text start, the last line first. -/
def lineStarts (lineEnd : Char) (text : Raw) : List Nat :=
  (text.foldl (fun (starts, place, isStart) c =>
    (if isStart then place :: starts else starts, place + 1, c == lineEnd))
    (([] : List Nat), 0, true)).1

/-- The text up to the last lines, as many as told, and these lines. -/
def splitBeforeLast (settings : Settings) (text : Raw) : Raw × Raw :=
  let place :=
    if !settings.byLines then text.length - settings.count
    else if settings.count = 0 then text.length
    else ((lineStarts settings.lineEnd text)[settings.count - 1]?).getD 0
  text.splitAt place

/-- Prints everything but the last part. -/
def headWithoutEnd (settings : Settings) (name : Raw) (descriptor : Nat) : Utility Unit := do
  match ← readAll descriptor with
  | .error error => readingFault name error
  | .ok bytes => print (splitBeforeLast settings (Raw.ofBytes bytes)).1

def headOptions : Options where
  letters := Options.valuedLetters "cn" ++ Options.plainLetters "qvz0123456789"
  words := [
    ("bytes", .valued, "c"), ("lines", .valued, "n"), ("quiet", .plain, "q"),
    ("silent", .plain, "q"), ("verbose", .plain, "v"), ("zero-terminated", .plain, "z")]

def takeHead (settings : Settings) (key : String) (value : Raw) : Utility Settings := do
  match key with
  | "c" | "n" =>
    let (reversed, text) := match value with
      | '-' :: text => (true, text)
      | text => (false, text)
    ({ settings with reversed }).takeCount (key = "n") text
  | "q" => return { settings with headers := .never }
  | "v" => return { settings with headers := .always }
  | "z" => return { settings with lineEnd := '\x00' }
  | digit => misuse 1 ("invalid trailing option -- ".toList ++ digit.toList)

/-- Reads the letters after the number of an old-style option. -/
def takeOldLetters (settings : Settings) (unit : Raw) : Raw → Utility (Settings × Raw)
  | [] => return (settings, unit)
  | c :: rest =>
    match c with
    | 'c' => takeOldLetters { settings with byLines := false } [] rest
    | 'b' | 'k' | 'm' => takeOldLetters { settings with byLines := false } [c] rest
    | 'l' => takeOldLetters { settings with byLines := true } unit rest
    | 'q' => takeOldLetters { settings with headers := .never } unit rest
    | 'v' => takeOldLetters { settings with headers := .always } unit rest
    | 'z' => takeOldLetters { settings with lineEnd := '\x00' } unit rest
    | c => misuse 1 ("invalid trailing option -- ".toList ++ [c])

/-- Reads a number with letters as the first argument. -/
def takeOldHead (arguments : List Raw) : Utility (Settings × List Raw) := do
  match arguments with
  | ('-' :: c :: text) :: rest =>
    if c.isDigit then
      let digits := (c :: text).takeWhile Char.isDigit
      let (settings, unit) ← takeOldLetters {} [] ((c :: text).drop digits.length)
      return (← settings.takeCount settings.byLines (digits ++ unit), rest)
    else return ({}, arguments)
  | arguments => return ({}, arguments)

def head (arguments : List Raw) : Utility Unit := do
  let (settings, arguments) ← takeOldHead arguments
  let (settings, names) ← readOptions headOptions 1 settings takeHead arguments
  if settings.reversed && !settings.byLines && 0x7fffffffffffffff < settings.count then
    die 1 (numberComplaint "invalid number of bytes" (Raw.ofNat settings.count) .tooLarge)
  let names := if names.isEmpty then [['-']] else names
  eachFile (settings.hasHeaders names) (fun name descriptor =>
    if settings.reversed then headWithoutEnd settings name descriptor
    else if settings.byLines then headLines settings name descriptor forever settings.count
    else headBytes name descriptor forever settings.count) true names
  closeInput names

def tailOptions : Options where
  letters := Options.valuedLetters "cns" ++ Options.plainLetters "fFqvz0123456789"
  words := [
    ("bytes", .valued, "c"), ("lines", .valued, "n"), ("follow", .optional, "f"),
    ("max-unchanged-stats", .valued, "max"), ("pid", .valued, "pid"), ("quiet", .plain, "q"),
    ("retry", .plain, "retry"), ("silent", .plain, "q"), ("sleep-interval", .valued, "s"),
    ("verbose", .plain, "v"), ("zero-terminated", .plain, "z")]

def takeTail (settings : Settings) (key : String) (value : Raw) : Utility Settings := do
  match key with
  | "c" | "n" =>
    let reversed : Bool := value.head? == some '+'
    let text := match value with
      | '-' :: text => text
      | text => text
    ({ settings with reversed }).takeCount (key = "n") text
  | "q" => return { settings with headers := .never }
  | "v" => return { settings with headers := .always }
  | "z" => return { settings with lineEnd := '\x00' }
  | "f" | "F" | "s" | "max" | "pid" | "retry" => return settings
  | digit => die 1 ("option used in invalid context -- ".toList ++ digit.toList)

/-- The settings that an old-style option of `tail` stands for. -/
def oldTail? (option : Raw) : Option Settings :=
  let read (reversed : Bool) (text : Raw) : Option Settings := do
    let digits := text.takeWhile Char.isDigit
    let rest := text.drop digits.length
    let (byLines, factor, rest) := match rest with
      | 'b' :: rest => (false, 512, rest)
      | 'c' :: rest => (false, 1, rest)
      | 'l' :: rest => (true, 1, rest)
      | rest => (true, 1, rest)
    let count := if digits.isEmpty then 10 else Raw.digitsValue digits
    if rest.isEmpty || rest = ['f'] then some { count := count * factor, byLines, reversed }
    else none
  match option with
  | '+' :: text => read true text
  | '-' :: c :: text => if c = 'c' && text.isEmpty then none else read false (c :: text)
  | _ => none

/-- Reads an old-style option, which stands alone or before one file. -/
def takeOldTail (arguments : List Raw) : Settings × List Raw :=
  let isFile (argument : Raw) : Bool := argument.head? ≠ some '-' || argument = ['-']
  let parsed := match arguments with
    | [option] => (oldTail? option).map fun settings => (settings, [])
    | [option, name] =>
      if isFile name || name = ['-', '-'] then
        (oldTail? option).map fun settings => (settings, [name])
      else none
    | [option, ['-', '-'], name] =>
      (oldTail? option).map fun settings => (settings, [['-', '-'], name])
    | _ => none
  parsed.getD ({}, arguments)

/-- The part of a text that `tail` prints. -/
def lastPart (settings : Settings) (text : Raw) : Raw :=
  if settings.reversed then
    let skipped := settings.count - 1
    if settings.byLines then (takeLines settings.lineEnd skipped [] text).2.2
    else text.drop skipped
  else (splitBeforeLast settings text).2

def tail (arguments : List Raw) : Utility Unit := do
  let (settings, arguments) := takeOldTail arguments
  let (settings, names) ← readOptions tailOptions 1 settings takeTail arguments
  let names := if names.isEmpty then [['-']] else names
  if settings.count ≠ 0 || settings.reversed then
    eachFile (settings.hasHeaders names) (fun name descriptor => do
      match ← readAll descriptor with
      | .error .badDescriptor =>
        fault (because ("cannot fstat ".toList ++ quoteName (title name)) .badDescriptor)
      | .error error => readingFault name error
      | .ok bytes => print (lastPart settings (Raw.ofBytes bytes))) true names
    closeInput names

end WheelInstaller.Utility.Excerpt
