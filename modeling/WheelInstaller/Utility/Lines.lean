import WheelInstaller.Utility.Basic
import WheelInstaller.Utility.Options
import WheelInstaller.Utility.TextPattern

/-! The lines of what a descriptor leads to, one after the other. No more is read than is needed for the
next line. -/

namespace WheelInstaller.Utility

open Process

/-- What is left of the lines that a descriptor leads to. -/
structure Lines where
  descriptor : Nat
  /-- What was read already. -/
  held : Raw := []
  /-- There is no more to read. -/
  isOver : Bool := false
  /-- What ends a line. -/
  lineEnd : Char := '\n'

/-- A line without its end. -/
structure Line where
  text : Raw
  /-- The end of the line is there. -/
  isWhole : Bool := true

namespace Lines

/-- How much is read at once. -/
def blockSize : Nat := 32768

/-- Reads until a line is complete, or there is no more. -/
def fill (lines : Lines) : (rounds : Nat) → Utility (Except OsError Lines)
  | 0 => return .ok lines
  | rounds + 1 => do
    if lines.isOver || lines.held.contains lines.lineEnd then return .ok lines
    else
      match ← ask (.read lines.descriptor blockSize none) with
      | .error error => return .error error
      | .ok bytes =>
        if bytes.isEmpty then return .ok { lines with isOver := true }
        else fill { lines with held := lines.held ++ Raw.ofBytes bytes } rounds

/-- The first of the lines that were read, and the others. -/
def take? (lines : Lines) : Option (Line × Lines) :=
  match Raw.splitAt? lines.lineEnd lines.held with
  | some (text, held) => some ({ text }, { lines with held })
  | none =>
    if lines.held.isEmpty then none
    else some ({ text := lines.held, isWhole := false }, { lines with held := [] })

def next (lines : Lines) : Utility (Except OsError (Option (Line × Lines))) := do
  match ← lines.fill forever with
  | .error error => return .error error
  | .ok lines => return .ok lines.take?

end Lines
end WheelInstaller.Utility

/-! `paste`: lines side by side, from several files or from one. -/

namespace WheelInstaller.Utility.Pasting

open Process

structure Settings where
  /-- What stands between neighbours, in turn. -/
  delimiters : List Raw := [['\t']]
  /-- The lines of a file stand side by side. -/
  isSerial : Bool := false
  lineEnd : Char := '\n'

def options : Options where
  letters := Options.plainLetters "sz" ++ Options.valuedLetters "d"
  words := [("serial", .plain, "s"), ("delimiters", .valued, "d"), ("zero-terminated", .plain, "z")]

/-- The texts that a list of delimiters stands for, unless it ends with a backslash by itself. -/
def readDelimiters : Raw → Option (List Raw)
  | [] => some []
  | ['\\'] => none
  | '\\' :: c :: rest => do
    let text := match c with
      | '0' => []
      | 'b' => ['\x08']
      | 'f' => ['\x0c']
      | 'n' => ['\n']
      | 'r' => ['\r']
      | 't' => ['\t']
      | 'v' => ['\x0b']
      | c => [c]
    return text :: (← readDelimiters rest)
  | c :: rest => do return [c] :: (← readDelimiters rest)

def Settings.take (settings : Settings) (key : String) (value : Raw) : Utility Settings := do
  match key with
  | "s" => return { settings with isSerial := true }
  | "z" => return { settings with lineEnd := '\x00' }
  | _ =>
    match readDelimiters value with
    | some delimiters =>
      return { settings with delimiters := if delimiters.isEmpty then [[]] else delimiters }
    | none => die 1 ("delimiter list ends with an unescaped backslash: ".toList ++ showName value)

/-- Texts side by side, with delimiters in turn between them. -/
def weave (delimiters : List Raw) : (place : Nat) → List Raw → Raw
  | _, [] => []
  | _, [text] => text
  | place, text :: rest =>
    text ++ (delimiters[place % delimiters.length]?).getD [] ++ weave delimiters (place + 1) rest

/-- Lines that are read, each file by its descriptor. -/
abbrev Sources := List Lines

/-- The next line of a file. One that cannot be read has none. -/
def Sources.next (name : Raw) (descriptor : Nat) (sources : Sources) :
    Utility (Option Raw × Sources) := do
  match sources.find? (·.descriptor = descriptor) with
  | none => return (none, sources)
  | some lines =>
    match ← lines.next with
    | .error error =>
      fault (because (showName name) error)
      return (none, sources)
    | .ok none => return (none, sources)
    | .ok (some (line, lines)) =>
      return (some line.text, lines :: sources.filter (·.descriptor ≠ descriptor))

/-- A file in a row: its name, and its descriptor as long as there may be more in it. -/
abbrev Column := Raw × Option Nat

def takeRow : Sources → List Column → Utility (List (Option Raw) × List Column × Sources)
  | sources, [] => return ([], [], sources)
  | sources, (name, none) :: rest => do
    let (row, columns, sources) ← takeRow sources rest
    return (none :: row, (name, none) :: columns, sources)
  | sources, (name, some descriptor) :: rest => do
    let (line, sources) ← sources.next name descriptor
    let column := (name, if line.isSome then some descriptor else none)
    let (row, columns, sources) ← takeRow sources rest
    return (line :: row, column :: columns, sources)

def printRows (settings : Settings) : (rounds : Nat) → List Column → Sources → Utility Unit
  | 0, _, _ => return ()
  | rounds + 1, columns, sources => do
    let (row, columns, sources) ← takeRow sources columns
    if row.any Option.isSome then
      print (weave settings.delimiters 0 (row.map (·.getD [])) ++ [settings.lineEnd])
      printRows settings rounds columns sources

def openColumns : List Raw → Utility (List Column)
  | [] => return []
  | name :: rest => do
    if name = ['-'] then return (name, some input) :: (← openColumns rest)
    else
      match ← openFile name with
      | .error error => die 1 (because (showName name) error)
      | .ok descriptor => return (name, some descriptor) :: (← openColumns rest)

def printSerially (settings : Settings) : List Raw → Utility Unit
  | [] => return ()
  | name :: rest => do
    let isInput : Bool := name == ['-']
    match ← if isInput then pure (.ok input) else openFile name with
    | .error error => fault (because (showName name) error)
    | .ok descriptor =>
      match ← readAll descriptor with
      | .error error => fault (because (showName name) error)
      | .ok bytes =>
        let lines := Raw.lines settings.lineEnd (Raw.ofBytes bytes)
        print (weave settings.delimiters 0 lines ++ [settings.lineEnd])
      if !isInput then close descriptor
    printSerially settings rest

/-- A descriptor leads to something. -/
def isOpen (descriptor : Nat) : Utility Bool := do
  match ← ask (.describe descriptor) with
  | .ok _ => return true
  | .error _ => return false

/-- `paste`. -/
def run (arguments : List Raw) : Utility Unit := do
  let (settings, names) ← readOptions options 1 ({} : Settings) Settings.take arguments
  let names := if names.isEmpty then [['-']] else names
  if settings.isSerial then printSerially settings names
  else
    if names.contains ['-'] && !(← isOpen input) then
      if 1 < names.length then die 1 "standard input is closed".toList
    let columns ← openColumns names
    let sources := (columns.filterMap (·.2)).eraseDups.map fun descriptor =>
      ({ descriptor, lineEnd := settings.lineEnd } : Lines)
    printRows settings forever columns sources
  closeInput names

end WheelInstaller.Utility.Pasting

/-! `fold`: lines that are not too long. -/

namespace WheelInstaller.Utility.Folding

open Process

structure Settings where
  width : Nat := 80
  /-- Bytes are counted, whatever they look like. -/
  byBytes : Bool := false
  /-- Lines are broken after blanks if they have any. -/
  atBlanks : Bool := false

def options : Options where
  letters := Options.plainLetters "bs" ++ Options.valuedLetters "w" ++
    "0123456789".toList.map fun digit => (digit, .optional)
  words := [("bytes", .plain, "b"), ("spaces", .plain, "s"), ("width", .valued, "w")]

def readWidth (text : Raw) : Utility Nat := do
  let digits := match text.dropWhile Raw.isSpace with
    | '+' :: rest => rest
    | rest => rest
  let wrong (reason : String) : Utility Nat :=
    die 1 ("invalid number of columns: ".toList ++ quoteWord text ++ reason.toList)
  if digits.isEmpty || !digits.all Char.isDigit then wrong ""
  else
    let width := Raw.digitsValue digits
    if width = 0 then wrong ": Numerical result out of range"
    else if 0xfffffffffffffff6 < width then wrong ": Value too large for defined data type"
    else return width

def Settings.take (settings : Settings) (key : String) (value : Raw) : Utility Settings := do
  match key with
  | "b" => return { settings with byBytes := true }
  | "s" => return { settings with atBlanks := true }
  | "w" => return { settings with width := ← readWidth value }
  | digit => return { settings with width := ← readWidth (digit.toList ++ value) }

def Settings.advance (settings : Settings) (column : Nat) (c : Char) : Nat :=
  if settings.byBytes then column + 1
  else
    match c with
    | '\x08' => column - 1
    | '\r' => 0
    | '\t' => column + 8 - column % 8
    | _ => column + 1

def Settings.columnAfter (settings : Settings) (text : Raw) : Nat :=
  text.foldl settings.advance 0

/-- The lines of one line. `line` is what is in the current one, the latest character first. -/
def Settings.fold (settings : Settings) : (fuel column : Nat) → (line : Raw) → Raw → List Raw
  | 0, _, line, text => [line.reverse ++ text]
  | _ + 1, _, line, [] => if line.isEmpty then [] else [line.reverse]
  | fuel + 1, column, line, c :: rest =>
    let after := settings.advance column c
    if after ≤ settings.width then settings.fold fuel after (c :: line) rest
    else
      let isBlank (c : Char) : Bool := c = ' ' || c = '\t'
      let tail := line.takeWhile fun c => !isBlank c
      if settings.atBlanks && tail.length < line.length then
        let start := (line.drop tail.length).reverse
        start :: settings.fold fuel (settings.columnAfter tail.reverse) tail (c :: rest)
      else if line.isEmpty then settings.fold fuel after [c] rest
      else line.reverse :: settings.fold fuel 0 [] (c :: rest)

def Settings.render (settings : Settings) (text : Raw) : Raw :=
  let folded (line : Raw) : Raw :=
    Raw.join ['\n'] (settings.fold (2 * line.length * (line.length + 1) + 1) 0 [] line)
  Raw.join ['\n'] ((Raw.split '\n' text).map folded)

def each (settings : Settings) : List Raw → Utility Unit
  | [] => return ()
  | name :: rest => do
    let isInput : Bool := name == ['-']
    match ← if isInput then pure (.ok input) else openFile name with
    | .error error => fault (because (showName name) error)
    | .ok descriptor =>
      match ← readAll descriptor with
      | .error error => fault (because (showName name) error)
      | .ok bytes => print (settings.render (Raw.ofBytes bytes))
      if !isInput then close descriptor
    each settings rest

/-- `fold`. -/
def run (arguments : List Raw) : Utility Unit := do
  let (settings, names) ← readOptions options 1 ({} : Settings) Settings.take arguments
  let names := if names.isEmpty then [['-']] else names
  each settings names
  closeInput names

end WheelInstaller.Utility.Folding

/-! `tac`: the parts of files between separators, the last part first. -/

namespace WheelInstaller.Utility.Backwards

open Process

structure Settings where
  separator : Raw := ['\n']
  /-- The separator stands in front of what it belongs to. -/
  before : Bool := false
  isPattern : Bool := false

def options : Options where
  letters := Options.plainLetters "br" ++ Options.valuedLetters "s"
  words := [("before", .plain, "b"), ("regex", .plain, "r"), ("separator", .valued, "s")]

def Settings.take (settings : Settings) (key : String) (value : Raw) : Settings :=
  match key with
  | "b" => { settings with before := true }
  | "r" => { settings with isPattern := true }
  | _ => { settings with separator := value }

/-- How long a separator is at a place of a text, given what lies before it, the latest first. -/
abbrev Finder := (past rest : Raw) → Option Nat

def Finder.ofText (separator : Raw) : Finder := fun _ rest =>
  if separator.isPrefixOf rest then some separator.length else none

def Finder.ofPattern (pattern : TextPattern) : Finder := fun past rest =>
  (pattern.fitsAt past.length past rest).head?.map (·.length)

/-- A text in parts, the last part first. `past` is what lies before the place, the latest first; from
the place on, the text goes up to the separator that was found last, and `close` ends it. -/
def parts (finder : Finder) (before : Bool) : (past text close : Raw) → List Raw
  | [], text, close => [text ++ close]
  | c :: past, text, close =>
    match finder past (c :: text) with
    | none => parts finder before past (c :: text) close
    | some width =>
      if before then (c :: text) :: parts finder before past [] []
      else
        let (separator, after) := (c :: text).splitAt width
        (after ++ close) :: parts finder before past [] separator

def each (settings : Settings) (finder : Finder) : List Raw → Utility (List Raw)
  | [] => return []
  | name :: rest => do
    let isInput : Bool := name == ['-']
    let found ← match ← if isInput then pure (.ok input) else openFile name with
      | .error error =>
        fault (because ("failed to open ".toList ++ quoteName name ++ " for reading".toList) error)
        pure []
      | .ok descriptor =>
        let outcome ← readAll descriptor
        if !isInput then close descriptor
        match outcome with
        | .error error =>
          let shown := showName (if isInput then "standard input".toList else name)
          let error := if error = .isDirectory then .invalidArgument else error
          fault (because (shown ++ ": read error".toList) error)
          pure []
        | .ok bytes => pure (parts finder settings.before (Raw.ofBytes bytes).reverse [] [])
    return found ++ (← each settings finder rest)

/-- `tac`. -/
def run (arguments : List Raw) : Utility Unit := do
  let (settings, names) ← readOptions options 1 ({} : Settings)
    (fun settings key value => return (settings : Settings).take key value) arguments
  let finder ←
    if settings.isPattern then
      if settings.separator.isEmpty then die 1 "separator cannot be empty".toList
      else
        match TextPattern.read { isStrict := false } settings.separator with
        | .ok pattern => pure (Finder.ofPattern pattern)
        | .error complaint => die 1 complaint.toList
    else
      pure (Finder.ofText (if settings.separator.isEmpty then ['\x00'] else settings.separator))
  let names := if names.isEmpty then [['-']] else names
  (← each settings finder names).forM print
  closeInput names

end WheelInstaller.Utility.Backwards
