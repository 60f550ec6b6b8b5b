import WheelInstaller.Utility.Options

/-! `wc`: how many lines, words and bytes there are. -/

namespace WheelInstaller.Utility.Count

open Process

/-- When a sum is printed. -/
inductive Total where
  /-- If there are several files. -/
  | auto
  | always
  | only
  | never
deriving DecidableEq, Repr

structure Settings where
  lines : Bool := false
  words : Bool := false
  chars : Bool := false
  bytes : Bool := false
  /-- The width of the widest line. -/
  width : Bool := false
  total : Total := .auto
  /-- The file that holds the names of the files. -/
  namesFrom : Option Raw := none

structure Counts where
  lines : Nat := 0
  words : Nat := 0
  bytes : Nat := 0
  width : Nat := 0
  /-- The last byte belongs to a word. -/
  inWord : Bool := false
  /-- The width of the current line. -/
  column : Nat := 0

namespace Counts

/-- The counts with one more byte. Only what can be seen makes up words and has a width. -/
def step (counts : Counts) (byte : UInt8) : Counts :=
  let counts := { counts with bytes := counts.bytes + 1 }
  let endWord : Counts :=
    { counts with words := if counts.inWord then counts.words + 1 else counts.words
                  inWord := false }
  let endLine : Counts :=
    { endWord with width := max endWord.width endWord.column, column := 0 }
  if byte = 10 then { endLine with lines := endLine.lines + 1 }
  else if byte = 13 || byte = 12 then endLine
  else if byte = 9 then { endWord with column := endWord.column + (8 - endWord.column % 8) }
  else if byte = 32 then { endWord with column := endWord.column + 1 }
  else if byte = 11 then endWord
  else if 33 ≤ byte && byte ≤ 126 then
    { counts with inWord := true, column := counts.column + 1 }
  else counts

/-- The counts at the end of a file. -/
def close (counts : Counts) : Counts :=
  { counts with
    words := if counts.inWord then counts.words + 1 else counts.words
    width := max counts.width counts.column, inWord := false, column := 0 }

def add (first second : Counts) : Counts where
  lines := first.lines + second.lines
  words := first.words + second.words
  bytes := first.bytes + second.bytes
  width := max first.width second.width

end Counts

/-- The numbers that are printed. -/
def Settings.chosen (settings : Settings) (counts : Counts) : List Nat :=
  (if settings.lines then [counts.lines] else []) ++
    (if settings.words then [counts.words] else []) ++
    (if settings.chars then [counts.bytes] else []) ++
    (if settings.bytes then [counts.bytes] else []) ++
    (if settings.width then [counts.width] else [])

def options : Options where
  letters := Options.plainLetters "clLmw"
  words := [
    ("bytes", .plain, "c"), ("chars", .plain, "m"), ("lines", .plain, "l"),
    ("words", .plain, "w"), ("debug", .plain, "debug"), ("files0-from", .valued, "from"),
    ("max-line-length", .plain, "L"), ("total", .valued, "total")]

def Settings.take (settings : Settings) (key : String) (value : Raw) : Utility Settings := do
  match key with
  | "c" => return { settings with bytes := true }
  | "m" => return { settings with chars := true }
  | "l" => return { settings with lines := true }
  | "w" => return { settings with words := true }
  | "L" => return { settings with width := true }
  | "from" => return { settings with namesFrom := some value }
  | "total" =>
    let total ← chooseWord 1 "--total" value
      [("auto", Total.auto), ("always", .always), ("only", .only), ("never", .never)]
    return { settings with total }
  | _ => return settings

/-- Prints counts in columns, and a name unless there is none. -/
def printCounts (settings : Settings) (width : Nat) (counts : Counts) (name : Option Raw) :
    Utility Unit := do
  let columns := (settings.chosen counts).map fun number =>
    let digits := Raw.ofNat number
    List.replicate (width - digits.length) ' ' ++ digits
  let title := match name with
    | some name => ' ' :: (if name.contains '\n' then showName name else name)
    | none => []
  printLine (Raw.join [' '] columns ++ title)

/-- Counts what a descriptor leads to. Tells why that was not possible to its end. -/
def count (descriptor : Nat) : (rounds : Nat) → Counts → Utility (Counts × Option OsError)
  | 0, counts => return (counts.close, none)
  | rounds + 1, counts => do
    match ← ask (.read descriptor readSize none) with
    | .error error => return (counts.close, some error)
    | .ok bytes =>
      if bytes.isEmpty then return (counts.close, none)
      else count descriptor rounds (bytes.foldl Counts.step counts)

/-- How wide the columns are: as wide as the sum of the sizes, and wider if sizes are not known. -/
def columnWidth (settings : Settings) (names : List (Option Raw)) : Utility Nat := do
  let single := names.length = 1 && (settings.chosen {}).length = 1
  if single || settings.total = .only then return 1
  let rec sizes : List (Option Raw) → Nat → Nat → Utility (Nat × Nat)
    | [], total, least => return (total, least)
    | name :: rest, total, least => do
      let status ← match name with
        | none | some ['-'] =>
          match ← ask (.describe input) with
          | .ok (status, _) => pure (.ok status)
          | .error error => pure (.error error)
        | some name => statusOf name true
      match status with
      | .ok status =>
        if status.kind = .file then sizes rest (total + status.size) least
        else sizes rest total 7
      | .error _ => sizes rest total least
  let known ← match names.head? with
    | some (some name) =>
      if name = ['-'] then pure true
      else
        match ← statusOf name true with
        | .ok _ => pure true
        | .error _ => pure false
    | _ => pure true
  if !known then return 1
  let (total, least) ← sizes names 0 1
  return max least (Raw.ofNat total).length

def each (settings : Settings) (width : Nat) : Counts → List (Option Raw) → Utility Counts
  | sum, [] => return sum
  | sum, name :: rest => do
    let isInput : Bool := name.all (· == ['-'])
    match ← if isInput then pure (.ok input) else openFile (name.getD []) with
    | .error error =>
      fault (because (showName (name.getD [])) error)
      each settings width sum rest
    | .ok descriptor =>
      let (counts, error) ← count descriptor forever {}
      match error with
      | some error =>
        fault (because (match name with
          | some name => showName name
          | none => showName "standard input".toList) error)
      | none => pure ()
      if !isInput then close descriptor
      if settings.total ≠ .only then printCounts settings width counts name
      each settings width (sum.add counts) rest

def readNames (name : Raw) : Utility (List Raw) := do
  let isInput : Bool := name == ['-']
  match ← if isInput then pure (.ok input) else openFile name with
  | .error error =>
    die 1 (because ("cannot open ".toList ++ quoteName name ++ " for reading".toList) error)
  | .ok descriptor =>
    match ← readAll descriptor with
    | .error error => die 1 (because (showName name ++ ": read error".toList) error)
    | .ok bytes =>
      let text := Raw.ofBytes bytes
      let text := if text.getLast? = some '\x00' then text.dropLast else text
      return if text.isEmpty then [] else Raw.split '\x00' text

/-- `wc`. -/
def run (arguments : List Raw) : Utility Unit := do
  let (settings, operands) ← readOptions options 1 {} Settings.take arguments
  let settings :=
    if (settings.chosen {}).isEmpty then
      { settings with lines := true, words := true, bytes := true }
    else settings
  let names : List (Option Raw) ← match settings.namesFrom, operands with
    | some _, extra :: _ =>
      complain ("extra operand ".toList ++ quoteName extra)
      remark "file operands cannot be combined with --files0-from\n".toList
      suggest 1
    | some source, [] => do pure ((← readNames source).map some)
    | none, [] => pure [none]
    | none, operands => pure (operands.map some)
  let width ← columnWidth settings names
  let sum ← each settings width {} names
  let summed : Bool := match settings.total with
    | .auto => 1 < names.length
    | .always | .only => true
    | .never => false
  if summed then
    printCounts settings width sum (if settings.total = .only then none else some "total".toList)
  closeInput (names.map (·.getD ['-']))

end WheelInstaller.Utility.Count
