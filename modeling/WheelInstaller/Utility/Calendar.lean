import WheelInstaller.Process.Storage
import WheelInstaller.Utility.Moment
import WheelInstaller.Utility.Options

/-! `date`: moments that are written as a format says. -/

namespace WheelInstaller.Utility.Calendar

open Process

/-- The clocks of a region: the name of their time, and the seconds that they are ahead. -/
structure Zone where
  name : Raw := "UTC".toList
  ahead : Int := 0
deriving DecidableEq, Repr

/-- A moment in nanoseconds, where clocks go in a way. -/
structure Instant where
  time : Int
  zone : Zone := {}

namespace Instant

/-- The seconds that clocks show. -/
def shownSeconds (instant : Instant) : Int :=
  instant.time / 1000000000 + instant.zone.ahead

/-- The date and the time of day. -/
def reading (instant : Instant) : Moment.Reading :=
  Moment.readSeconds instant.shownSeconds

/-- The weekday, counted from Sunday. -/
def weekday (instant : Instant) : Nat :=
  ((instant.shownSeconds / 86400 + 4) % 7).toNat

/-- The day of the year, counted from zero. -/
def yearDay (instant : Instant) : Nat :=
  (instant.shownSeconds / 86400 - Moment.dayNumber instant.reading.year 1 1).toNat

/-- The year and the number of the week in which the instant lies. Weeks start with Monday and belong to
the year of their Thursday. -/
def week (instant : Instant) : Int × Nat :=
  let day := instant.shownSeconds / 86400
  let thursday := day - (day + 3) % 7 + 3
  let year := (Moment.dateOf thursday).year
  (year, ((thursday - Moment.dayNumber year 1 1) / 7).toNat + 1)

end Instant

structure Field where
  /-- What a short part is filled up with. -/
  fill : Option Char := none
  isUpper : Bool := false
  isSwapped : Bool := false
  width : Option Nat := none
deriving DecidableEq, Repr

namespace Field

def pad (field : Field) (text : Raw) : Raw :=
  if field.fill = some '-' then text
  else
    let fill := if field.fill = some '0' || field.fill = some '+' then '0' else ' '
    text.leftpad (field.width.getD 0) fill

def name (field : Field) (text : String) : Raw :=
  let text := text.toList
  field.pad (if field.isUpper || field.isSwapped then text.map Char.toUpper else text)

/-- A name that is usually in capitals. -/
def capitals (field : Field) (text : Raw) : Raw :=
  field.pad (if field.isSwapped then text.map Char.toLower else text)

/-- A number in so many digits, which follow a sign and are filled up with a character. -/
def signed (field : Field) (fill : Char) (sign digits : Raw) (count : Nat) : Raw :=
  let fill := field.fill.getD fill
  let missing := field.width.getD count - sign.length - digits.length
  if fill = '-' then sign ++ digits
  else if fill = '_' then List.replicate missing ' ' ++ sign ++ digits
  else sign ++ List.replicate missing '0' ++ digits

def number (field : Field) (count : Nat) (value : Int) (fill : Char := '0') : Raw :=
  field.signed fill (if value < 0 then ['-'] else []) (Raw.ofNat value.natAbs) count

/-- A year, which has a sign if it is long and that is asked for. -/
def year (field : Field) (count : Nat) (value : Int) : Raw :=
  let isLong := (if count = 2 then 99 else 9999) < value || count < field.width.getD count
  let sign :=
    if value < 0 then ['-'] else if field.fill = some '+' && isLong then ['+'] else []
  field.signed '0' sign (Raw.ofNat value.natAbs) count

/-- How far clocks are ahead, with colons before the last pairs of digits. -/
def offset (field : Field) (colons : Nat) (ahead : Int) : Raw :=
  let seconds := ahead.natAbs
  let (hours, minutes, rest) := (seconds / 3600, seconds / 60 % 60, seconds % 60)
  let two (number : Nat) : Raw := (Raw.ofNat number).leftpad 2 '0'
  let (digits, count) : Raw × Nat := match colons with
    | 0 => (Raw.ofNat (hours * 100 + minutes), 5)
    | 1 => (Raw.ofNat hours ++ ':' :: two minutes, 6)
    | 2 => (Raw.ofNat hours ++ ':' :: two minutes ++ ':' :: two rest, 9)
    | _ =>
      if rest ≠ 0 then (Raw.ofNat hours ++ ':' :: two minutes ++ ':' :: two rest, 9)
      else if minutes ≠ 0 then (Raw.ofNat hours ++ ':' :: two minutes, 6)
      else (Raw.ofNat hours, 3)
  field.signed '0' (if ahead < 0 then ['-'] else ['+']) digits count

/-- Digits without zeros at the end, except for the first digit. -/
def trimmed : Raw → Raw
  | [] => []
  | c :: rest => c :: Raw.dropEndWhile (· = '0') rest

/-- The nanoseconds of a second, or the first digits of them. -/
def nanoseconds (field : Field) (value : Nat) : Raw :=
  let width := match field.width with
    | none | some 0 => 9
    | some width => width
  let digits := trimmed (((Raw.ofNat value).leftpad 9 '0').take width)
  let missing := width - digits.length
  digits ++ List.replicate missing (if field.fill = some '_' then ' ' else '0')

end Field

def weekdays : List String :=
  ["Sunday", "Monday", "Tuesday", "Wednesday", "Thursday", "Friday", "Saturday"]

def months : List String :=
  ["January", "February", "March", "April", "May", "June", "July", "August", "September",
    "October", "November", "December"]

def readFlags (field : Field) : Raw → Field × Raw
  | '^' :: rest => readFlags { field with isUpper := true } rest
  | '#' :: rest => readFlags { field with isSwapped := true } rest
  | c :: rest =>
    if "_-+0".toList.contains c then readFlags { field with fill := some c } rest
    else (field, c :: rest)
  | [] => (field, [])

/-- A format that a letter stands for. -/
def shorthand? : Char → Option String
  | 'c' => some "%a %b %e %H:%M:%S %-Y"
  | 'D' | 'x' => some "%m/%d/%y"
  | 'r' => some "%I:%M:%S %p"
  | 'R' => some "%H:%M"
  | 'T' | 'X' => some "%H:%M:%S"
  | _ => none

/-- The part of a moment that a letter stands for, unless it stands for none. -/
def part? (instant : Instant) (field : Field) (letter : Char) : Option Raw :=
  let reading := instant.reading
  let hour12 := if reading.hour % 12 = 0 then 12 else reading.hour % 12
  let half := if reading.hour < 12 then "AM" else "PM"
  let weekday := weekdays.getD instant.weekday ""
  let month := months.getD (reading.month - 1) ""
  let short (name : String) : String := String.ofList (name.toList.take 3)
  match letter with
  | 'a' => some (field.name (short weekday))
  | 'A' => some (field.name weekday)
  | 'b' | 'h' => some (field.name (short month))
  | 'B' => some (field.name month)
  | 'C' => some (field.year 2 (reading.year / 100))
  | 'd' => some (field.number 2 reading.day)
  | 'e' => some (field.number 2 reading.day '_')
  | 'g' => some (field.number 2 (instant.week.1 % 100))
  | 'G' => some (field.year 4 instant.week.1)
  | 'H' => some (field.number 2 reading.hour)
  | 'I' => some (field.number 2 hour12)
  | 'j' => some (field.number 3 (instant.yearDay + 1 : Nat))
  | 'k' => some (field.number 2 reading.hour '_')
  | 'l' => some (field.number 2 hour12 '_')
  | 'm' => some (field.number 2 reading.month)
  | 'M' => some (field.number 2 reading.minute)
  | 'n' => some (field.pad ['\n'])
  | 'N' => some (field.nanoseconds (instant.time % 1000000000).toNat)
  | 'p' => some (field.capitals half.toList)
  | 'P' => some (field.pad (half.toList.map Char.toLower))
  | 'q' => some (field.number 1 ((reading.month - 1) / 3 + 1 : Nat))
  | 's' => some (field.number 1 (instant.time / 1000000000))
  | 'S' => some (field.number 2 reading.second)
  | 't' => some (field.pad ['\t'])
  | 'u' => some (field.number 1 ((instant.weekday + 6) % 7 + 1 : Nat))
  | 'U' => some (field.number 2 ((instant.yearDay + 7 - instant.weekday) / 7 : Nat))
  | 'V' => some (field.number 2 instant.week.2)
  | 'w' => some (field.number 1 instant.weekday)
  | 'W' => some (field.number 2 ((instant.yearDay + 7 - (instant.weekday + 6) % 7) / 7 : Nat))
  | 'y' => some (field.number 2 (reading.year % 100))
  | 'Y' => some (field.year 4 reading.year)
  | 'z' => some (field.offset 0 instant.zone.ahead)
  | 'Z' => some (field.capitals instant.zone.name)
  | _ => none

/-- The letters that may not follow a wish for other digits. -/
def refusals : List (Char × String) :=
  [('E', "aAbBdDeFgGhHIjklmMNSUVwW%"), ('O', "aAcDFxXY%")]

/-- The letters of numbers, which are written in the usual way if there is a wish for other digits. -/
def numberLetters : List Char :=
  "CdegGHIjklmMqSuUVwWy".toList

/-- A moment as a format says. What means nothing is written as it stands. -/
def write (instant : Instant) : (fuel : Nat) → Raw → Raw
  | 0, text => text
  | _ + 1, [] => []
  | fuel + 1, '%' :: text =>
    let (field, rest) := readFlags {} text
    let digits := rest.takeWhile Char.isDigit
    let field := if digits.isEmpty then field else { field with width := Raw.digitsValue digits }
    let rest := rest.drop digits.length
    let (choice, rest) : Option String × Raw := match rest with
      | c :: after =>
        match refusals.find? (·.1 = c) with
        | some (_, letters) => (some letters, after)
        | none => (none, rest)
      | [] => (none, [])
    let colons := (rest.takeWhile (· = ':')).length
    let isOffset := colons ≠ 0 && colons ≤ 3 && (rest.drop colons).head? = some 'z'
    let (letter?, rest) : Option Char × Raw := match if isOffset then rest.drop colons else rest with
      | letter :: rest => (some letter, rest)
      | [] => (none, [])
    let raise (text : Raw) : Raw := if field.isUpper then text.map Char.toUpper else text
    let isUsual := choice = some "aAcDFxXY%" && letter?.any numberLetters.contains
    let written : Option Raw := match letter? with
      | none => none
      | some letter =>
        if isOffset then some (field.offset colons instant.zone.ahead)
        else if choice.any (·.toList.contains letter) then none
        else if letter = '%' then if text.head? = some '%' then some ['%'] else none
        else if letter = 'F' then
          let field := if field.fill.isNone && field.width.isNone then
              { field with fill := some '+', width := some 10 }
            else field
          let field := { field with width := some (field.width.getD 0 - 6) }
          some (field.year 4 instant.reading.year ++ write instant fuel "-%m-%d".toList)
        else
          match shorthand? letter with
          | some format => some (field.pad (raise (write instant fuel format.toList)))
          | none =>
            if isUsual then (part? instant {} letter).map field.pad
            else part? instant field letter
    match written with
    | some part => part ++ write instant fuel rest
    | none =>
      field.pad (raise ('%' :: text.take (text.length - rest.length))) ++ write instant fuel rest
  | fuel + 1, c :: text => c :: write instant fuel text

def render (instant : Instant) (format : Raw) : Raw :=
  write instant (format.length + 24) format

def full (time : Int) : Raw :=
  render { time } "%Y-%m-%d %H:%M:%S.%N %z".toList

/-- The zone that a text names: letters, and how far clocks are behind. -/
def Zone.ofText (text : Raw) : Zone :=
  let name := text.takeWhile Char.isAlpha
  if name.length < 3 then {}
  else
    let offset := text.drop name.length
    let (isAhead, digits) : Bool × Raw := match offset with
      | '-' :: rest => (true, rest)
      | '+' :: rest => (false, rest)
      | rest => (false, rest)
    let seconds := (Raw.split ':' digits).zipIdx.foldl (fun sum (part, place) =>
      sum + Raw.digitsValue (part.takeWhile Char.isDigit) * [3600, 60, 1].getD place 0) 0
    { name, ahead := if isAhead then seconds else -seconds }

inductive Source where
  | clock
  | words (text : Raw)
  | file (name : Raw)
  | list (name : Raw)
deriving DecidableEq, Repr

structure Settings where
  sources : List Source := []
  format : Option Raw := none
  isUniversal : Bool := false

def options : Options where
  letters := Options.plainLetters "Ru" ++ Options.valuedLetters "dfr" ++ [('I', .optional)]
  words := [
    ("date", .valued, "d"), ("file", .valued, "f"), ("iso-8601", .optional, "I"),
    ("reference", .valued, "r"), ("rfc-3339", .valued, "rfc-3339"), ("rfc-email", .plain, "R"),
    ("rfc-822", .plain, "R"), ("rfc-2822", .plain, "R"), ("universal", .plain, "u"),
    ("utc", .plain, "u"), ("uct", .plain, "u")]

def Settings.withFormat (settings : Settings) (format : Raw) : Utility Settings := do
  if settings.format.isSome then die 1 "multiple output formats specified".toList
  return { settings with format := some format }

def Settings.take (settings : Settings) (key : String) (value : Raw) : Utility Settings := do
  match key with
  | "d" => return { settings with sources := settings.sources ++ [.words value] }
  | "f" => return { settings with sources := settings.sources ++ [.list value] }
  | "r" => return { settings with sources := settings.sources ++ [.file value] }
  | "u" => return { settings with isUniversal := true }
  | "R" => settings.withFormat "%a, %d %b %Y %H:%M:%S %z".toList
  | "I" =>
    let format ← if value.isEmpty then pure "%Y-%m-%d" else
      chooseWord 1 "--iso-8601" value [
        ("hours", "%Y-%m-%dT%H%:z"), ("minutes", "%Y-%m-%dT%H:%M%:z"), ("date", "%Y-%m-%d"),
        ("seconds", "%Y-%m-%dT%H:%M:%S%:z"), ("ns", "%Y-%m-%dT%H:%M:%S,%N%:z")]
    settings.withFormat format.toList
  | _ =>
    let format ← chooseWord 1 "--rfc-3339" value [
      ("date", "%Y-%m-%d"), ("seconds", "%Y-%m-%d %H:%M:%S%:z"),
      ("ns", "%Y-%m-%d %H:%M:%S.%N%:z")]
    settings.withFormat format.toList

/-- The kinds of sources that are told are one kind. -/
def areAlike : List Source → Bool
  | .words _ :: rest => rest.all fun | .words _ => true | _ => false
  | .list _ :: rest => rest.all fun | .list _ => true | _ => false
  | .file _ :: rest => rest.all fun | .file _ => true | _ => false
  | _ => true

/-- Writes the moment that a text means, or complains that it means none. -/
def tellText (zone : Zone) (format text : Raw) (now : Int) : Utility Unit := do
  match Moment.ofText? now text (zone.ahead / 60) with
  | some time => printLine (render { time, zone } format)
  | none => fault ("invalid date ".toList ++ quoteWord text)

def tellList (zone : Zone) (format name : Raw) (now : Int) : Utility Unit := do
  let isInput : Bool := name == ['-']
  match ← if isInput then pure (.ok input) else openFile name with
  | .error error => die 1 (because (showName name) error)
  | .ok descriptor =>
    match ← readAll descriptor with
    | .error error => die 1 (because (showName name) error)
    | .ok bytes =>
      (Raw.lines '\n' (Raw.ofBytes bytes)).forM fun line => tellText zone format line now

/-- `date`. -/
def run (arguments : List Raw) : Utility Unit := do
  let (settings, operands) ← readOptions options 1 ({} : Settings) Settings.take arguments
  if !areAlike settings.sources then
    misuse 1 "the options to specify dates for printing are mutually exclusive".toList
  let (settings, digits) ← match operands with
    | [] => pure (settings, none)
    | _ :: extra :: _ => misuse 1 ("extra operand ".toList ++ quoteWord extra)
    | [('+' :: format)] => do pure (← settings.withFormat format, none)
    | [operand] =>
      if settings.sources.isEmpty then pure (settings, some operand)
      else
        misuse 1 ("the argument ".toList ++ quoteWord operand ++
          (" lacks a leading '+';\nwhen using an option to specify date(s), any non-option\n" ++
            "argument must be a format string beginning with '+'").toList)
  let told := (← state).environment.find? fun (name, _) => name = "TZ".toList
  let zone := if settings.isUniversal then {} else Zone.ofText ((told.map (·.2)).getD [])
  let format := settings.format.getD "%a %b %e %H:%M:%S %Z %Y".toList
  let now : Int := (Storage.startTime * 1000 : Nat)
  match digits, settings.sources.getLast?.getD .clock with
  | some operand, _ =>
    match Moment.ofDigits? (Moment.read Storage.startTime).year.toNat operand with
    | some time => printLine (render { time := (time * 1000 : Nat), zone } format)
    | none => die 1 ("invalid date ".toList ++ quoteWord operand)
  | none, .clock => printLine (render { time := now, zone } format)
  | none, .words text => tellText zone format text now
  | none, .list name => tellList zone format name now
  | none, .file name =>
    match ← statusOf name true with
    | .ok status => printLine (render { time := (status.modified * 1000 : Nat), zone } format)
    | .error error => die 1 (because (showName name) error)

end WheelInstaller.Utility.Calendar
