import WheelInstaller.Process.Activity
import WheelInstaller.Utility.Options
import WheelInstaller.Utility.Quoting

/-! `cat`: files one after the other, perhaps with numbers, marks and visible forms of what cannot be
seen. -/

namespace WheelInstaller.Utility.Concatenation

open Process

structure Settings where
  numbers : Bool := false
  /-- Only lines with something on them get a number. -/
  numbersNonblank : Bool := false
  squeezes : Bool := false
  showsEnds : Bool := false
  showsTabs : Bool := false
  showsControls : Bool := false
deriving DecidableEq, Repr

def options : Options where
  letters := Options.plainLetters "AbeEnstTuv"
  words := [
    ("number-nonblank", .plain, "b"), ("number", .plain, "n"), ("squeeze-blank", .plain, "s"),
    ("show-nonprinting", .plain, "v"), ("show-ends", .plain, "E"), ("show-tabs", .plain, "T"),
    ("show-all", .plain, "A")]

def Settings.take (settings : Settings) (key : String) : Settings :=
  match key with
  | "A" => { settings with showsControls := true, showsEnds := true, showsTabs := true }
  | "b" => { settings with numbers := true, numbersNonblank := true }
  | "e" => { settings with showsControls := true, showsEnds := true }
  | "E" => { settings with showsEnds := true }
  | "n" => { settings with numbers := true }
  | "s" => { settings with squeezes := true }
  | "t" => { settings with showsControls := true, showsTabs := true }
  | "T" => { settings with showsTabs := true }
  | "v" => { settings with showsControls := true }
  | _ => settings

/-- A byte below 128 in its visible form. -/
def visible (c : Char) : Raw :=
  if c = '\x7f' then ['^', '?']
  else if c < ' ' then ['^', Char.ofNat (c.toNat + 64)]
  else [c]

def shown (settings : Settings) (c : Char) : Raw :=
  if c = '\t' then if settings.showsTabs then ['^', 'I'] else [c]
  else if !settings.showsControls then [c]
  else if c.toNat < 128 then visible c
  else 'M' :: '-' :: visible (Char.ofNat (c.toNat - 128))

/-- Where the program is between lines. -/
structure Progress where
  /-- The number of the last line that has got one. -/
  line : Nat := 0
  /-- How many line ends in a row were read, counted from the one that ends a line with something on
  it, which counts as zero. In such a line, it is less than that. -/
  ends : Int := 0

def numeral (line : Nat) : Raw :=
  let digits := Raw.ofNat line
  List.replicate (6 - digits.length) ' ' ++ digits ++ ['\t']

/-- What is printed for a text, the latest first. -/
def render (settings : Settings) : Progress → Raw → (written : List Raw) → Progress × List Raw
  | progress, [], written => (progress, written)
  | progress, '\n' :: rest, written =>
    let ends := progress.ends + 1
    if settings.squeezes && 2 ≤ ends then render settings { progress with ends := 2 } rest written
    else
      let numbered := 0 < ends && settings.numbers && !settings.numbersNonblank
      let line := if numbered then progress.line + 1 else progress.line
      let number := if numbered then numeral line else []
      let mark := if settings.showsEnds then ['$', '\n'] else ['\n']
      render settings { line, ends := min ends 2 } rest (mark :: number :: written)
  | progress, c :: rest, written =>
    let numbered := 0 ≤ progress.ends && settings.numbers
    let line := if numbered then progress.line + 1 else progress.line
    let number := if numbered then numeral line else []
    let text :=
      if c = '\r' && settings.showsEnds && rest.head? = some '\n' then ['^', 'M']
      else shown settings c
    render settings { line, ends := -1 } rest (text :: number :: written)

def pass (bytes : ByteArray) : Utility Unit := do
  match ← ask (.write 1 bytes) with
  | .ok () => return ()
  | .error error => die 1 (because "write error".toList error)

/-- Passes on everything that a descriptor leads to, or shows it. Tells why that was not possible. -/
def copy (settings : Settings) (descriptor : Nat) : (rounds : Nat) → Progress →
    Utility (Progress × Option OsError)
  | 0, progress => return (progress, none)
  | rounds + 1, progress => do
    match ← ask (.read descriptor 131072 none) with
    | .error error => return (progress, some error)
    | .ok bytes =>
      if bytes.isEmpty then return (progress, none)
      else if settings = {} then
        pass bytes
        copy settings descriptor rounds progress
      else
        let (progress, written) := render settings progress (Raw.ofBytes bytes) []
        pass (Raw.toBytes written.reverse.flatten)
        copy settings descriptor rounds progress

/-- The output is the file that is to be read, and there is more in it. -/
def isEndless (descriptor : Nat) : Utility Bool := do
  match ← ask (.describe descriptor), ← ask (.describe 1) with
  | .ok (source, position), .ok (target, _) =>
    return target.kind = .file && source.identity = target.identity && position < source.size
  | _, _ => return false

/-- Goes through the files. -/
def each (settings : Settings) : Progress → (usedInput : Bool) → List Raw → Utility Unit
  | _, usedInput, [] => do
    if usedInput then
      match ← ask (.close input) with
      | .ok () => return ()
      | .error error => die 1 (because "closing standard input".toList error)
  | progress, usedInput, name :: rest => do
    let isInput : Bool := name == ['-']
    let usedInput := usedInput || isInput
    match ← if isInput then pure (.ok input) else openFile name with
    | .error error =>
      fault (because (showName name) error)
      each settings progress usedInput rest
    | .ok descriptor =>
      let progress ←
        if ← isEndless descriptor then
          fault (showName name ++ ": input file is output file".toList)
          pure progress
        else
          let (progress, error) ← copy settings descriptor forever progress
          match error with
          | some error => fault (because (showName name) error)
          | none => pure ()
          pure progress
      if !isInput then close descriptor
      each settings progress usedInput rest

/-- `cat`. -/
def run (arguments : List Raw) : Utility Unit := do
  let (settings, names) ← readOptions options 1 {} (fun settings key _ =>
    return (settings : Settings).take key) arguments
  each settings {} false (if names.isEmpty then [['-']] else names)

end WheelInstaller.Utility.Concatenation

/-! `tee`: what is read goes to the output and to files. -/

namespace WheelInstaller.Utility.Spread

open Process

/-- What is done about an output that cannot be written. -/
inductive Complaining where
  | warn
  /-- Nothing is said about pipes that nobody reads. -/
  | warnOnFiles
  | stop
  | stopOnFiles
deriving DecidableEq, Repr

structure Settings where
  appends : Bool := false
  ignoresInterrupts : Bool := false
  complaining : Option Complaining := none

def options : Options where
  letters := Options.plainLetters "aip"
  words := [("append", .plain, "a"), ("ignore-interrupts", .plain, "i"),
    ("output-error", .optional, "error")]

/-- The words for what is done about an output that cannot be written. -/
def complainingWords : List (String × Complaining) :=
  [("warn", .warn), ("warn-nopipe", .warnOnFiles), ("exit", .stop), ("exit-nopipe", .stopOnFiles)]

def Settings.take (settings : Settings) (key : String) (value : Raw) : Utility Settings := do
  match key with
  | "a" => return { settings with appends := true }
  | "i" => return { settings with ignoresInterrupts := true }
  | "p" => return { settings with complaining := some .warnOnFiles }
  | _ =>
    if value.isEmpty then return { settings with complaining := some .warnOnFiles }
    else
      return { settings with
        complaining := some (← chooseWord 1 "--output-error" value complainingWords) }

abbrev Target := Raw × Nat

def Settings.refuse (settings : Settings) (name : Raw) (error : OsError) : Utility Unit := do
  let isPipe := error = .brokenPipe
  let isQuiet := isPipe &&
    settings.complaining.any fun kind => kind = .warnOnFiles || kind = .stopOnFiles
  let stops := settings.complaining.any fun kind =>
    kind = .stop || (kind = .stopOnFiles && !isPipe)
  if !isQuiet then fault (because (showName name) error)
  if stops then exit 1

def Settings.openTargets (settings : Settings) : List Raw → Utility (List Target)
  | [] => return []
  | name :: rest => do
    let purpose := if settings.appends then Purpose.append else .replace
    match ← ask (.open ⟨Raw.toString name⟩ purpose 0o666) with
    | .ok descriptor => return (name, descriptor) :: (← settings.openTargets rest)
    | .error error =>
      settings.refuse name error
      settings.openTargets rest

/-- Writes bytes everywhere, and tells where that was possible. -/
def Settings.writeAll (settings : Settings) (bytes : ByteArray) : List Target →
    Utility (List Target)
  | [] => return []
  | target :: rest => do
    match ← ask (.write target.2 bytes) with
    | .ok () => return target :: (← settings.writeAll bytes rest)
    | .error error =>
      settings.refuse target.1 error
      settings.writeAll bytes rest

/-- Passes on what is read as long as somebody takes it. -/
def Settings.copy (settings : Settings) : (rounds : Nat) → List Target → Utility Unit
  | 0, _ | _ + 1, [] => return ()
  | rounds + 1, targets => do
    match ← ask (.read input 8192 none) with
    | .error error => fault (because "read error".toList error)
    | .ok bytes =>
      if !bytes.isEmpty then settings.copy rounds (← settings.writeAll bytes targets)

/-- `tee`. -/
def run (arguments : List Raw) : Utility Unit := do
  let (settings, names) ← readOptions options 1 ({} : Settings) Settings.take arguments
  if settings.ignoresInterrupts then
    let _ ← ask (.react 2 (some .ignored))
  if settings.complaining.isSome then
    let _ ← ask (.react 13 (some .ignored))
  let files ← settings.openTargets names
  settings.copy forever (("standard output".toList, 1) :: files)
  match ← ask (.close input) with
  | .ok () => pure ()
  | .error error => die 1 (because "standard input".toList error)

end WheelInstaller.Utility.Spread
