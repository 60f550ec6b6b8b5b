import WheelInstaller.Utility.Concatenation
import WheelInstaller.Utility.Dump

/-! `cmp` and `comm`: what two files have in common, by bytes or by lines in order. -/

namespace WheelInstaller.Utility.Comparison

open Process

/-- Everything in a file, unless it cannot be read. -/
def readFile (name : Raw) : Utility (Except OsError Raw) := do
  let isInput : Bool := name == ['-']
  match ← if isInput then pure (.ok input) else openFile name with
  | .error error => return .error error
  | .ok descriptor =>
    let outcome ← readAll descriptor
    if !isInput then close descriptor
    return outcome.map Raw.ofBytes

structure Settings where
  showsBytes : Bool := false
  /-- All differences are told. -/
  whole : Bool := false
  silent : Bool := false
  limit : Option Nat := none
  /-- How many bytes are left out at the start of both files. -/
  skipped : Nat × Nat := (0, 0)

def options : Options where
  letters := Options.plainLetters "bclsv" ++ Options.valuedLetters "in"
  words := [
    ("print-bytes", .plain, "b"), ("print-chars", .plain, "b"), ("ignore-initial", .valued, "i"),
    ("verbose", .plain, "l"), ("bytes", .valued, "n"), ("silent", .plain, "s"),
    ("quiet", .plain, "s")]

/-- Where to read more about `cmp`. -/
def suggestHelp {α : Type} (message : Raw) : Utility α := do
  complain message
  complain "Try 'cmp --help' for more information.".toList
  exit 2

def readCount (option : String) (whole text : Raw) : Utility Nat := do
  match parseSize "kKMGTPEZY0" text with
  | .ok count => return count
  | .error .tooLarge => return largest
  | .error .invalid =>
    suggestHelp ("invalid ".toList ++ option.toList ++ " value '".toList ++ whole ++ ['\x27'])

/-- The numbers of bytes that are left out. -/
def readSkips (text : Raw) : Utility (Nat × Nat) := do
  match Raw.splitAt? ':' text with
  | some (first, second) =>
    return (← readCount "--ignore-initial" text first, ← readCount "--ignore-initial" text second)
  | none =>
    let count ← readCount "--ignore-initial" text text
    return (count, count)

def Settings.take (settings : Settings) (key : String) (value : Raw) : Utility Settings := do
  match key with
  | "b" | "c" => return { settings with showsBytes := true }
  | "i" => return { settings with skipped := ← readSkips value }
  | "l" => return { settings with whole := true }
  | "n" => return { settings with limit := some (← readCount "--bytes" value value) }
  | "s" => return { settings with silent := true }
  | _ => return settings

/-- The places at which texts differ, with the bytes there, counted from one. -/
def differences : (place : Nat) → Raw → Raw → List (Nat × Char × Char)
  | place, first :: rest, second :: others =>
    if first = second then differences (place + 1) rest others
    else (place, first, second) :: differences (place + 1) rest others
  | _, _, _ => []

/-- A byte in octal digits, as wide as three of them. -/
def octalColumn (c : Char) : Raw :=
  let digits := Nat.toDigits 8 c.toNat
  List.replicate (3 - digits.length) ' ' ++ digits

/-- A byte in its visible form. -/
def visible (c : Char) : Raw :=
  if c = '\t' then ['^', 'I'] else Concatenation.shown { showsControls := true } c

def Settings.line (settings : Settings) (width place : Nat) (first second : Char) : Raw :=
  let digits := Raw.ofNat place
  let start := List.replicate (width - digits.length) ' ' ++ digits ++ [' ']
  if settings.showsBytes then
    let shown := visible first
    start ++ octalColumn first ++ ' ' :: shown ++ List.replicate (4 - shown.length) ' ' ++ ' ' ::
      octalColumn second ++ ' ' :: visible second
  else start ++ octalColumn first ++ ' ' :: octalColumn second

/-- Complains about the end of the file that is a part of the other one. -/
def Settings.tellEnd (settings : Settings) (name text : Raw) : Utility Unit := do
  if !settings.silent then
    let place := " after byte ".toList ++ Raw.ofNat text.length
    let lines := text.count '\n'
    let shown :=
      if text.isEmpty then " which is empty".toList
      else if settings.whole then place
      else if text.getLast? = some '\n' then place ++ ", line ".toList ++ Raw.ofNat lines
      else place ++ ", in line ".toList ++ Raw.ofNat (lines + 1)
    remark ((← state).name ++ ": EOF on ".toList ++ name ++ shown ++ ['\n'])

def Settings.compare (settings : Settings) (firstName secondName first second : Raw) :
    Utility Unit := do
  let found := differences 1 first second
  match found with
  | [] =>
    if first.length ≠ second.length then
      if first.length < second.length then settings.tellEnd firstName first
      else settings.tellEnd secondName second
      mark 1
  | (place, mine, other) :: _ =>
    mark 1
    if settings.silent then return ()
    else if settings.whole then
      let width := (Raw.ofNat (min first.length second.length)).length
      found.forM fun (place, mine, other) => printLine (settings.line width place mine other)
      if first.length < second.length then settings.tellEnd firstName first
      else if second.length < first.length then settings.tellEnd secondName second
    else
      let line := (first.take (place - 1)).count '\n' + 1
      let unit := if settings.showsBytes then "byte " else "char "
      let bytes :=
        if settings.showsBytes then
          " is ".toList ++ octalColumn mine ++ ' ' :: visible mine ++ ' ' :: octalColumn other ++
            ' ' :: visible other
        else []
      printLine (firstName ++ ' ' :: secondName ++ " differ: ".toList ++ unit.toList ++
        Raw.ofNat place ++ ", line ".toList ++ Raw.ofNat line ++ bytes)

def compareBytes (arguments : List Raw) : Utility Unit := do
  breakWith 2
  let (items, operands) := options.read arguments.length arguments
  let settings ← takeOptions suggestHelp Settings.take {} items
  match operands with
  | [] => suggestHelp "missing operand after 'cmp'".toList
  | first :: rest =>
    let second := rest.headD ['-']
    let skips := rest.drop 1
    let settings ← match skips with
      | [] => pure settings
      | [one] => do
        let count ← readCount "--ignore-initial" one one
        pure { settings with skipped := (count, settings.skipped.2) }
      | [one, two] => do
        let count ← readCount "--ignore-initial" one one
        let other ← readCount "--ignore-initial" two two
        pure { settings with skipped := (count, other) }
      | _ :: _ :: extra :: _ => suggestHelp ("extra operand '".toList ++ extra ++ ['\x27'])
    if settings.silent && settings.whole then
      suggestHelp "options -l and -s are incompatible".toList
    let prepare (skipped : Nat) (text : Raw) : Raw :=
      let text := text.drop skipped
      settings.limit.elim text text.take
    let refuse (name : Raw) (error : OsError) : Utility Raw := do
      if settings.silent && error = .notFound then exit 2 else die 2 (because name error)
    let mine ← match ← readFile first with
      | .ok text => pure text
      | .error error => refuse first error
    let other ← match ← readFile second with
      | .ok text => pure text
      | .error error => refuse second error
    settings.compare first second (prepare settings.skipped.1 mine)
      (prepare settings.skipped.2 other)

structure Columns where
  /-- Lines of the first file only, of the second one only, and of both are printed. -/
  first : Bool := true
  second : Bool := true
  both : Bool := true
  separator : Option Raw := none
  lineEnd : Char := '\n'
  hasTotal : Bool := false
  /-- Files that are not in order are refused, or are not even looked for. -/
  guards : Option Bool := none

def columnOptions : Options where
  letters := Options.plainLetters "123z"
  words := [
    ("check-order", .plain, "check"), ("nocheck-order", .plain, "nocheck"),
    ("output-delimiter", .valued, "separator"), ("total", .plain, "total"),
    ("zero-terminated", .plain, "z")]

def Columns.take (settings : Columns) (key : String) (value : Raw) : Utility Columns := do
  match key with
  | "1" => return { settings with first := false }
  | "2" => return { settings with second := false }
  | "3" => return { settings with both := false }
  | "z" => return { settings with lineEnd := '\x00' }
  | "check" => return { settings with guards := some true }
  | "nocheck" => return { settings with guards := some false }
  | "separator" =>
    if settings.separator.any (· ≠ value) then
      die 1 "multiple output delimiters specified".toList
    return { settings with separator := some value }
  | _ => return { settings with hasTotal := true }

def Columns.gap (settings : Columns) : Raw :=
  match settings.separator with
  | none => ['\t']
  | some [] => ['\x00']
  | some text => text

/-- How far two files were compared. -/
structure Merging where
  /-- Lines of the first file only, of the second one only, and of both. -/
  totals : Nat × Nat × Nat := (0, 0, 0)
  /-- Some line was in one file only. -/
  isUneven : Bool := false
  /-- Files that are known to be out of order. -/
  disordered : List Nat := []
  /-- The last two lines of either file, the latest first. -/
  before : List Raw × List Raw := ([], [])

def Columns.check (settings : Columns) (merging : Merging) (number : Nat) (before now : Raw) :
    Utility Merging := do
  let looks := settings.guards.getD merging.isUneven
  if looks && !merging.disordered.contains number && !Raw.isAtMost before now then
    complain ("file ".toList ++ Raw.ofNat number ++ " is not in sorted order".toList)
    if settings.guards = some true then exit 1
    return { merging with disordered := number :: merging.disordered }
  else return merging

/-- Looks at the order after a line of a file was used. -/
def Columns.advance (settings : Columns) (merging : Merging) (number : Nat) (history rest : List Raw) :
    Utility Merging :=
  match rest, history with
  | next :: _, line :: _ => settings.check merging number line next
  | [], line :: before :: _ => settings.check merging number before line
  | _, _ => return merging

def Columns.put (settings : Columns) (gaps : Nat) (line : Raw) : Utility Unit :=
  print ((List.replicate gaps settings.gap).flatten ++ line ++ [settings.lineEnd])

/-- Compares the lines of files. -/
def Columns.merge (settings : Columns) : (fuel : Nat) → Merging → List Raw → List Raw →
    Utility Merging
  | 0, merging, _, _ | _ + 1, merging, [], [] => return merging
  | fuel + 1, merging, first, second => do
    let order := match first, second with
      | mine :: _, other :: _ => Raw.order mine other
      | _ :: _, [] => .lt
      | _, _ => .gt
    let (one, two, three) := merging.totals
    let firstGap := if settings.first then 1 else 0
    let secondGap := if settings.second then 1 else 0
    match order with
    | .lt =>
      let line := first.headD []
      if settings.first then settings.put 0 line
      let history := line :: merging.before.1.take 1
      let merging := { merging with
        totals := (one + 1, two, three), isUneven := true, before := (history, merging.before.2) }
      settings.merge fuel (← settings.advance merging 1 history first.tail) first.tail second
    | .gt =>
      let line := second.headD []
      if settings.second then settings.put firstGap line
      let history := line :: merging.before.2.take 1
      let merging := { merging with
        totals := (one, two + 1, three), isUneven := true, before := (merging.before.1, history) }
      settings.merge fuel (← settings.advance merging 2 history second.tail) first second.tail
    | .eq =>
      let line := first.headD []
      if settings.both then settings.put (firstGap + secondGap) line
      let mine := line :: merging.before.1.take 1
      let other := line :: merging.before.2.take 1
      let merging := { merging with totals := (one, two, three + 1), before := (mine, other) }
      let merging ← settings.advance merging 1 mine first.tail
      settings.merge fuel (← settings.advance merging 2 other second.tail) first.tail second.tail

def compareLines (arguments : List Raw) : Utility Unit := do
  let (settings, operands) ← readOptions columnOptions 1 ({} : Columns) Columns.take arguments
  match operands with
  | [] => misuse 1 "missing operand".toList
  | [single] => misuse 1 ("missing operand after ".toList ++ quoteWord single)
  | _ :: _ :: extra :: _ => misuse 1 ("extra operand ".toList ++ quoteWord extra)
  | [first, second] =>
    let lines (name : Raw) : Utility (List Raw) := do
      match ← readFile name with
      | .ok text => return Raw.lines settings.lineEnd text
      | .error error => die 1 (because (showName name) error)
    let mine ← lines first
    let other ← lines second
    let merging ← settings.merge (mine.length + other.length) {} mine other
    if settings.hasTotal then
      let (one, two, three) := merging.totals
      let texts := [Raw.ofNat one, Raw.ofNat two, Raw.ofNat three, "total".toList]
      print (Raw.join settings.gap texts ++ [settings.lineEnd])
    if !merging.disordered.isEmpty then die 1 "input is not in sorted order".toList

end WheelInstaller.Utility.Comparison
