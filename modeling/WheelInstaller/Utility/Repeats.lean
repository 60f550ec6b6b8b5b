import WheelInstaller.Utility.Quoting
import WheelInstaller.Utility.Options

/-! `uniq`: lines that are the same as their neighbours. Such lines make a group, and one line of a
group stands for all of them unless more is wanted. -/

namespace WheelInstaller.Utility.Repeats

open Process

/-- Where groups of several lines are parted, if all of their lines are printed. -/
inductive Parting where
  | never
  | before
  | between
deriving DecidableEq, Repr

/-- Where empty lines stand if every line is printed. -/
inductive Frame where
  | before
  | after
  | between
  | around
deriving DecidableEq, Repr

structure Settings where
  counts : Bool := false
  /-- Lines that stand alone are printed. -/
  single : Bool := true
  /-- One line is printed for several. -/
  repeated : Bool := true
  /-- All of several lines are printed. -/
  whole : Option Parting := none
  frame : Option Frame := none
  fields : Nat := 0
  /-- The last option was a digit of the number of fields. -/
  inDigits : Bool := false
  skipped : Nat := 0
  width : Option Nat := none
  anyCase : Bool := false
  lineEnd : Char := '\n'

def options : Options where
  letters := Options.valuedLetters "fsw" ++ Options.plainLetters "0123456789Dcdiuz"
  words := [
    ("count", .plain, "c"), ("repeated", .plain, "d"), ("all-repeated", .optional, "all"),
    ("group", .optional, "group"), ("ignore-case", .plain, "i"), ("unique", .plain, "u"),
    ("skip-fields", .valued, "f"), ("skip-chars", .valued, "s"), ("check-chars", .valued, "w"),
    ("zero-terminated", .plain, "z")]

/-- The words for how groups are parted. -/
def partings : List (String × Parting) :=
  [("none", .never), ("prepend", .before), ("separate", .between)]

/-- The words for where empty lines stand. -/
def frames : List (String × Frame) :=
  [("prepend", .before), ("append", .after), ("separate", .between), ("both", .around)]

def readCount (what : String) (text : Raw) : Utility Nat := do
  match parseSize "" text with
  | .ok count => return count
  | .error .tooLarge => return largest
  | .error .invalid => die 1 (text ++ ": invalid number of ".toList ++ what.toList)

def Settings.take (settings : Settings) (key : String) (value : Raw) : Utility Settings := do
  match key with
  | "c" => return { settings with counts := true }
  | "d" => return { settings with single := false }
  | "D" => return { settings with single := false, whole := some .never }
  | "all" =>
    let whole ←
      if value.isEmpty then pure .never else chooseWord 1 "--all-repeated" value partings
    return { settings with single := false, whole := some whole }
  | "group" =>
    let frame ← if value.isEmpty then pure .between else chooseWord 1 "--group" value frames
    return { settings with frame := some frame }
  | "i" => return { settings with anyCase := true }
  | "u" => return { settings with repeated := false }
  | "f" =>
    return { settings with fields := ← readCount "fields to skip" value, inDigits := false }
  | "s" => return { settings with skipped := ← readCount "bytes to skip" value }
  | "w" => return { settings with width := some (← readCount "bytes to compare" value) }
  | "z" => return { settings with lineEnd := '\x00' }
  | digit =>
    let before := if settings.inDigits then settings.fields else 0
    return { settings with
      fields := min largest (10 * before + Raw.digitsValue digit.toList), inDigits := true }

/-- A line without so many fields, each with the blanks before it. -/
def dropFields : (count : Nat) → Raw → Raw
  | 0, line => line
  | _ + 1, [] => []
  | count + 1, c :: rest =>
    let isBlank (c : Char) : Bool := c = ' ' || c = '\t' || c = '\n'
    dropFields count (((c :: rest).dropWhile isBlank).dropWhile fun c => !isBlank c)

def Settings.key (settings : Settings) (line : Raw) : Raw :=
  let text := (dropFields settings.fields line).drop settings.skipped
  let text := settings.width.elim text text.take
  if settings.anyCase then text.map Char.toUpper else text

/-- The lines in groups of neighbours in which the same counts. -/
def Settings.groups (settings : Settings) (lines : List Raw) : List (List Raw) :=
  let keyed := lines.map fun line => (settings.key line, line)
  (keyed.splitBy fun first second => first.1 == second.1).map (·.map (·.2))

def Settings.choose (settings : Settings) : List Raw → List Raw
  | [] => []
  | [line] => if settings.single then [line] else []
  | line :: rest =>
    let isAll := settings.whole.isSome || settings.frame.isSome
    if !isAll then if settings.repeated then [line] else []
    else if settings.repeated then line :: rest
    else (line :: rest).dropLast

/-- A line of a group with their number in front, if that is wanted. -/
def Settings.counted (settings : Settings) (count : Nat) (line : Raw) : Raw :=
  if settings.counts then
    let digits := Raw.ofNat count
    List.replicate (7 - digits.length) ' ' ++ digits ++ ' ' :: line
  else line

/-- What is printed for groups. `isLater` says that there was a group before, of several lines if all
lines of those are printed. -/
def Settings.render (settings : Settings) : (isLater : Bool) → List (List Raw) → List Raw
  | isLater, [] => if isLater && settings.frame.any (fun frame => frame = .after || frame = .around)
    then [[]] else []
  | isLater, group :: rest =>
    let isParted := match settings.frame, settings.whole with
      | some .before, _ | some .around, _ => true
      | some _, _ => isLater
      | none, some .before => 1 < group.length
      | none, some .between => isLater && 1 < group.length
      | none, _ => false
    let lines := (settings.choose group).map (settings.counted group.length)
    let isLater := isLater || settings.frame.isSome || 1 < group.length
    (if isParted then [[]] else []) ++ lines ++ settings.render isLater rest

/-- The number of bytes to skip, if an operand tells it in the old way. -/
def oldSkip? : Raw → Option Nat
  | '+' :: digits =>
    if digits.isEmpty || !digits.all Char.isDigit then none
    else
      let count := Raw.digitsValue digits
      if count ≤ largest then some count else none
  | _ => none

/-- Leaves with a complaint about a file. -/
def fail {α : Type} (name : Raw) (error : OsError) : Utility α :=
  die 1 (because (showName name) error)

/-- Opens the file that is read, and makes the one that is written the output. -/
def openFiles (source target : Raw) : Utility Nat := do
  let descriptor ←
    if source = ['-'] then pure input
    else
      match ← openFile source with
      | .ok descriptor => pure descriptor
      | .error error => fail source error
  if target ≠ ['-'] then
    match ← ask (.open ⟨Raw.toString target⟩ .replace 0o666) with
    | .error error => fail target error
    | .ok made =>
      let _ ← ask (.redirect made 1)
      close made
  return descriptor

/-- `uniq`. -/
def run (arguments : List Raw) : Utility Unit := do
  let (settings, operands) ← readOptions options 1 {} Settings.take arguments
  let skips := operands.filterMap oldSkip?
  let settings := { settings with skipped := skips.getLast?.getD settings.skipped }
  let names := operands.filter fun operand => (oldSkip? operand).isNone
  match names[2]? with
  | some extra => misuse 1 ("extra operand ".toList ++ quoteWord extra)
  | none => pure ()
  let isChosen := settings.counts || !settings.single || !settings.repeated
  if settings.frame.isSome && isChosen then
    misuse 1 "--group is mutually exclusive with -c/-d/-D/-u".toList
  if settings.counts && settings.whole.isSome then
    misuse 1 "printing all duplicated lines and repeat counts is meaningless".toList
  let source := names.headD ['-']
  let descriptor ← openFiles source ((names[1]?).getD ['-'])
  match ← readAll descriptor with
  | .error error => die 1 (because ("error reading ".toList ++ quoteName source) error)
  | .ok bytes =>
    let lines := Raw.lines settings.lineEnd (Raw.ofBytes bytes)
    (settings.render false (settings.groups lines)).forM fun line =>
      print (line ++ [settings.lineEnd])

end WheelInstaller.Utility.Repeats
