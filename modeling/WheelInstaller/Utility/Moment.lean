import WheelInstaller.Text.Encoding

/-! Moments in time, as programs are told them. A moment is told in microseconds. -/

namespace WheelInstaller.Utility.Moment

def second : Nat := 1000000

/-- The days before a year, counted from some day on. The last month of a year of this kind is February,
so that the day that is left out of most years is the last one. -/
def daysBefore (year : Int) : Int :=
  365 * year + year / 4 - year / 100 + year / 400

/-- The days from the beginning of 1970 to a date. Months beyond twelve belong to later years. -/
def dayNumber (year month day : Int) : Int :=
  let months := 12 * year + month - 3
  let days := daysBefore (months / 12) + (153 * (months % 12) + 2) / 5
  days + day - 719469

structure Date where
  year : Int
  month : Nat
  day : Nat
deriving DecidableEq, Repr

/-- The date of the day that is so many days away from the beginning of 1970. -/
def dateOf (number : Int) : Date :=
  let days := number + 719468
  let guess := days / 366 - 1
  let isPast (year : Int) : Bool := daysBefore (year + 1) ≤ days
  let guess := guess + (days - daysBefore guess) / 366
  let year := if isPast guess then if isPast (guess + 1) then guess + 2 else guess + 1 else guess
  let day := days - daysBefore year
  let months := (5 * day + 2) / 153
  { year := if months < 10 then year else year + 1
    month := ((months + 2) % 12 + 1).toNat
    day := (day - (153 * months + 2) / 5 + 1).toNat }

/-- The seconds from the beginning of 1970 to a date and a time of day, if there is such a date. -/
def seconds? (year month day hour minute seconds : Nat) : Option Nat :=
  let number := dayNumber year month day
  if month = 0 || dateOf number ≠ { year, month, day } || 23 < hour || 59 < minute ||
      60 < seconds || number < 0 then none
  else some (((number.toNat * 24 + hour) * 60 + minute) * 60 + seconds)

structure Reading extends Date where
  hour : Nat
  minute : Nat
  second : Nat
deriving DecidableEq, Repr

/-- The date and the time of day of a moment, which is told in seconds. -/
def readSeconds (time : Int) : Reading :=
  let second := (time % 86400).toNat
  { dateOf (time / 86400) with
    hour := second / 3600, minute := second / 60 % 60, second := second % 60 }

/-- The date and the time of day of a moment. -/
def read (time : Nat) : Reading :=
  readSeconds (time / second : Nat)

/-- The names of the months, cut short. -/
def months : List String :=
  ["Jan", "Feb", "Mar", "Apr", "May", "Jun", "Jul", "Aug", "Sep", "Oct", "Nov", "Dec"]

def pairs? : Raw → Option (List Nat)
  | [] => some []
  | first :: second :: rest => do
    if first.isDigit && second.isDigit then
      some (Raw.digitsValue [first, second] :: (← pairs? rest))
    else none
  | [_] => none

/-- The moment that digits mean: the month, the day, the hour and the minute, after the year in two or
four digits if it is not the current one, and before the second if there is a point. -/
def ofDigits? (currentYear : Nat) (text : Raw) : Option Nat := do
  let (digits, last) ← match Raw.splitAt? '.' text with
    | none => some (text, 0)
    | some (digits, after) =>
      match ← pairs? after with
      | [seconds] => some (digits, seconds)
      | _ => none
  let (year, rest) ← match ← pairs? digits with
    | [month, day, hour, minute] => some (currentYear, month, day, hour, minute)
    | [year, month, day, hour, minute] =>
      some (if year < 69 then 2000 + year else 1900 + year, month, day, hour, minute)
    | [century, year, month, day, hour, minute] =>
      some (100 * century + year, month, day, hour, minute)
    | _ => none
  let (month, day, hour, minute) := rest
  (← seconds? year month day hour minute last) * second

end WheelInstaller.Utility.Moment

/-! Moments in words: dates and times of day in the forms in which people write them, and distances to
other moments. Words are read from the left, as many of them at a time as belong together. -/

namespace WheelInstaller.Utility.Moment

/-- A distance in time. Months have no length of their own. -/
structure Distance where
  months : Int := 0
  days : Int := 0
  nanoseconds : Int := 0
deriving DecidableEq, Repr

namespace Distance

def times (count : Int) (distance : Distance) : Distance where
  months := count * distance.months
  days := count * distance.days
  nanoseconds := count * distance.nanoseconds

def add (first second : Distance) : Distance where
  months := first.months + second.months
  days := first.days + second.days
  nanoseconds := first.nanoseconds + second.nanoseconds

def seconds (count : Int) : Distance where
  nanoseconds := count * 1000000000

end Distance

inductive Word where
  | number (isSigned : Bool) (value : Int) (digits : Nat)
  /-- A number of nanoseconds, told as a fraction of a second. -/
  | fraction (isSigned : Bool) (nanoseconds : Int)
  | month (number : Nat)
  | weekday (number : Nat)
  | halfDay (isSecond : Bool)
  /-- A time zone, by the minutes that it is ahead. -/
  | zone (minutes : Int)
  /-- A time zone in summer. -/
  | summerZone (minutes : Int)
  | summer
  | unit (distance : Distance) (isSecond : Bool)
  | shift (days : Int)
  | ordinal (number : Int)
  | direction (factor : Int)
  /-- The letter between a date and a time, which is a time zone as well. -/
  | divider
  | sign (c : Char)
deriving DecidableEq, Repr

namespace Word

/-- Months and weekdays, which may be cut to three letters. -/
def ofCalendar : List (String × Word) := [
  ("JANUARY", .month 1), ("FEBRUARY", .month 2), ("MARCH", .month 3), ("APRIL", .month 4),
  ("MAY", .month 5), ("JUNE", .month 6), ("JULY", .month 7), ("AUGUST", .month 8),
  ("SEPTEMBER", .month 9), ("SEPT", .month 9), ("OCTOBER", .month 10), ("NOVEMBER", .month 11),
  ("DECEMBER", .month 12), ("SUNDAY", .weekday 0), ("MONDAY", .weekday 1),
  ("TUESDAY", .weekday 2), ("TUES", .weekday 2), ("WEDNESDAY", .weekday 3),
  ("WEDNES", .weekday 3), ("THURSDAY", .weekday 4), ("THUR", .weekday 4), ("THURS", .weekday 4),
  ("FRIDAY", .weekday 5), ("SATURDAY", .weekday 6)]

def zones : List (String × Word) :=
  let usual : List (String × Int) := [
    ("GMT", 0), ("UT", 0), ("UTC", 0), ("WET", 0), ("ART", -180), ("BRT", -180), ("NST", -210),
    ("AST", -240), ("CLT", -240), ("EST", -300), ("CST", -360), ("MST", -420), ("PST", -480),
    ("AKST", -540), ("HST", -600), ("HAST", -600), ("SST", -720), ("WAT", 60), ("CET", 60),
    ("MET", 60), ("MEZ", 60), ("EET", 120), ("CAT", 120), ("SAST", 120), ("EAT", 180),
    ("MSK", 180), ("IST", 330), ("SGT", 480), ("KST", 540), ("JST", 540), ("GST", 600),
    ("NZST", 720)]
  let summer : List (String × Int) := [
    ("WEST", 0), ("BST", 0), ("BRST", -180), ("NDT", -210), ("ADT", -240), ("CLST", -240),
    ("EDT", -300), ("CDT", -360), ("MDT", -420), ("PDT", -480), ("AKDT", -540), ("HADT", -600),
    ("CEST", 60), ("MEST", 60), ("MESZ", 60), ("EEST", 120), ("MSD", 180), ("NZDT", 720)]
  usual.map (fun (name, minutes) => (name, .zone minutes)) ++
    summer.map (fun (name, minutes) => (name, .summerZone minutes))

def units : List (String × Word) := [
  ("YEAR", .unit { months := 12 } false), ("MONTH", .unit { months := 1 } false),
  ("FORTNIGHT", .unit { days := 14 } false), ("WEEK", .unit { days := 7 } false),
  ("DAY", .unit { days := 1 } false), ("HOUR", .unit (.seconds 3600) false),
  ("MINUTE", .unit (.seconds 60) false), ("MIN", .unit (.seconds 60) false),
  ("SECOND", .unit (.seconds 1) true), ("SEC", .unit (.seconds 1) true)]

/-- Words that compare with the present. -/
def relations : List (String × Word) := [
  ("TOMORROW", .shift 1), ("YESTERDAY", .shift (-1)), ("TODAY", .shift 0), ("NOW", .shift 0),
  ("LAST", .ordinal (-1)), ("THIS", .ordinal 0), ("NEXT", .ordinal 1), ("FIRST", .ordinal 1),
  ("THIRD", .ordinal 3), ("FOURTH", .ordinal 4), ("FIFTH", .ordinal 5), ("SIXTH", .ordinal 6),
  ("SEVENTH", .ordinal 7), ("EIGHTH", .ordinal 8), ("NINTH", .ordinal 9), ("TENTH", .ordinal 10),
  ("ELEVENTH", .ordinal 11), ("TWELFTH", .ordinal 12), ("AGO", .direction (-1)),
  ("HENCE", .direction 1)]

def ofLetter? (c : Char) : Option Word :=
  let place : Int := c.toNat - 'A'.toNat
  if c = 'T' then some .divider
  else if c = 'J' then none
  else if c = 'Z' then some (.zone 0)
  else if 'A' ≤ c && c ≤ 'I' then some (.zone (60 * (place + 1)))
  else if 'K' ≤ c && c ≤ 'M' then some (.zone (60 * place))
  else if 'N' ≤ c && c ≤ 'Y' then some (.zone (60 * (12 - place)))
  else none

def ofLetters? (letters : Raw) : Option Word :=
  let text := letters.map Char.toUpper
  let named (names : List (String × Word)) (text : Raw) : Option Word :=
    (names.find? (·.1.toList = text)).map (·.2)
  let isCut := text.length = 3 || (text.length = 4 && text.getLast? = some '.')
  let halves := [("AM", Word.halfDay false), ("A.M.", .halfDay false), ("PM", .halfDay true),
    ("P.M.", .halfDay true)]
  let calendar : Option Word :=
    if isCut then (ofCalendar.find? fun (name, _) => name.toList.take 3 = text.take 3).map (·.2)
    else named ofCalendar text
  let plain := text.filter (· ≠ '.')
  (named halves text).or <| calendar.or <| (named zones text).or <|
    (named [("DST", .summer)] text).or <| (named units text).or <|
    (if text.getLast? = some 'S' then named units text.dropLast else none).or <|
    (named relations text).or <|
    (match text with
      | [c] => ofLetter? c
      | _ => none).or
    (if plain ≠ text then named zones plain else none)

def ofDigits (sign : Option Bool) (text : Raw) : Word × Raw :=
  let digits := text.takeWhile Char.isDigit
  let rest := text.drop digits.length
  let whole : Int := Raw.digitsValue digits
  let signed (value : Int) : Int := if sign = some true then -value else value
  let isFraction : Bool := match rest with
    | c :: next :: _ => (c = '.' || c = ',') && next.isDigit
    | _ => false
  if isFraction then
    let places := rest.tail.takeWhile Char.isDigit
    let nanoseconds : Int := Raw.digitsValue ((places ++ List.replicate 9 '0').take 9)
    let isCut := sign = some true && (places.drop 9).any (· ≠ '0')
    let value := whole * 1000000000 + nanoseconds + if isCut then 1 else 0
    (.fraction sign.isSome (signed value), rest.drop (1 + places.length))
  else (.number sign.isSome (signed whole) digits.length, rest)

/-- What is behind a remark in parentheses, of which so many are open. -/
def skipRemark : (depth : Nat) → Raw → Raw
  | 0, text => text
  | _ + 1, [] => []
  | depth + 1, '(' :: rest => skipRemark (depth + 2) rest
  | depth + 1, ')' :: rest => skipRemark depth rest
  | depth + 1, _ :: rest => skipRemark (depth + 1) rest

/-- The words of a text, unless one of them is unknown. -/
def read? : (fuel : Nat) → Raw → Option (List Word)
  | 0, _ | _ + 1, [] => some []
  | fuel + 1, c :: rest =>
    if Raw.isSpace c then read? fuel rest
    else if c.isDigit then do
      let (word, rest) := ofDigits none (c :: rest)
      return word :: (← read? fuel rest)
    else if c = '-' || c = '+' then do
      let rest := rest.dropWhile Raw.isSpace
      if rest.head?.any Char.isDigit then
        let (word, rest) := ofDigits (some (c = '-')) rest
        return word :: (← read? fuel rest)
      else read? fuel rest
    else if c.isAlpha then do
      let letters := c :: rest.takeWhile fun c => c.isAlpha || c = '.'
      let word ← ofLetters? (letters.take 19)
      return word :: (← read? fuel (rest.drop (letters.length - 1)))
    else if c = '(' then read? fuel (skipRemark 1 rest)
    else do return .sign c :: (← read? fuel rest)

end Word

structure Phrase where
  year : Int
  /-- With how many digits the year was told. -/
  yearDigits : Nat := 0
  month : Int
  day : Int
  hour : Int
  minute : Int
  /-- In nanoseconds. -/
  second : Int
  /-- The hour is one of twelve, in the second half of the day or in the first. -/
  half : Option Bool := none
  weekday : Int := 0
  /-- Which one of the weekdays that are to come. -/
  which : Int := 0
  zone : Int := 0
  distance : Distance := {}
  isRelative : Bool := false
  dates : Nat := 0
  times : Nat := 0
  weekdays : Nat := 0
  zones : Nat := 0

namespace Phrase

def dated (phrase : Phrase) (year : Option (Int × Nat)) (month day : Int) : Phrase :=
  let (year, yearDigits) := year.getD (phrase.year, phrase.yearDigits)
  { phrase with year, yearDigits, month, day, dates := phrase.dates + 1 }

def timed (phrase : Phrase) (hour minute second : Int) (half : Option Bool := none) : Phrase :=
  { phrase with hour, minute, second, half, times := phrase.times + 1 }

def zoned (phrase : Phrase) (minutes : Int) : Phrase :=
  { phrase with zone := minutes, zones := phrase.zones + 1 }

def onWeekday (phrase : Phrase) (weekday : Nat) (which : Int) : Phrase :=
  { phrase with weekday, which, weekdays := phrase.weekdays + 1 }

def moved (phrase : Phrase) (distance : Distance) : Phrase :=
  { phrase with distance := phrase.distance.add distance, isRelative := true }

/-- A phrase with a number that stands by itself. -/
def numbered (phrase : Phrase) (value : Int) (digits : Nat) : Phrase :=
  if phrase.dates ≠ 0 && phrase.yearDigits = 0 && !phrase.isRelative &&
      (phrase.times ≠ 0 || 2 < digits) then
    { phrase with year := value, yearDigits := digits }
  else if 4 < digits then
    phrase.dated (some (value / 10000, digits - 4)) (value / 100 % 100) (value % 100)
  else if digits ≤ 2 then phrase.timed value 0 0
  else phrase.timed (value / 100) (value % 100) 0

/-- A phrase with the minutes that its time zone is ahead, and the words that are left. -/
def offset? (phrase : Phrase) (value : Int) (digits : Nat) (rest : List Word) :
    Option (Phrase × List Word) :=
  let (minutes, rest) : Int × List Word := match rest with
    | .sign ':' :: .number false minutes _ :: rest =>
      (60 * value + (if value < 0 then -minutes else minutes), rest)
    | rest => (if digits ≤ 2 then 60 * value else value.tdiv 100 * 60 + value.tmod 100, rest)
  if 1440 < minutes.natAbs then none else some (phrase.zoned minutes, rest)

/-- A phrase with a time of day that may have a time zone. -/
def timeAndZone? (phrase : Phrase) : List Word → Option (Phrase × List Word)
  | .number true value digits :: rest => phrase.offset? value digits rest
  | rest => some (phrase, rest)

/-- A phrase with a distance, whose direction may follow. -/
def go (phrase : Phrase) (distance : Distance) : List Word → Phrase × List Word
  | .direction factor :: rest => (phrase.moved (distance.times factor), rest)
  | rest => (phrase.moved distance, rest)

/-- A phrase with a time of day in hours and minutes, of which the rest is still to be read. -/
def clock? (phrase : Phrase) (hour minute : Int) : List Word → Option (Phrase × List Word)
  | .halfDay half :: rest => some (phrase.timed hour minute 0 (some half), rest)
  | .sign ':' :: .number false second _ :: .halfDay half :: rest =>
    some (phrase.timed hour minute (second * 1000000000) (some half), rest)
  | .sign ':' :: .fraction false second :: .halfDay half :: rest =>
    some (phrase.timed hour minute second (some half), rest)
  | .sign ':' :: .number false second _ :: rest =>
    (phrase.timed hour minute (second * 1000000000)).timeAndZone? rest
  | .sign ':' :: .fraction false second :: rest =>
    (phrase.timed hour minute second).timeAndZone? rest
  | rest => (phrase.timed hour minute 0).timeAndZone? rest

def takeNumber? (phrase : Phrase) (value : Int) (digits : Nat) :
    List Word → Option (Phrase × List Word)
  | .halfDay half :: rest => some (phrase.timed value 0 0 (some half), rest)
  | .sign ':' :: .number false minute _ :: rest => phrase.clock? value minute rest
  | .sign '/' :: .number false second _ :: .sign '/' :: .number false third thirdDigits :: rest =>
    if 4 ≤ digits then some (phrase.dated (some (value, digits)) second third, rest)
    else some (phrase.dated (some (third, thirdDigits)) value second, rest)
  | .sign '/' :: .number false second _ :: rest => some (phrase.dated none value second, rest)
  | .number true month _ :: .number true day _ :: rest =>
    let phrase := phrase.dated (some (value, digits)) (-month) (-day)
    match rest with
    | .divider :: .number false hour _ :: .number true offset offsetDigits :: rest =>
      (phrase.timed hour 0 0).offset? offset offsetDigits rest
    | .divider :: .number false hour _ :: .sign ':' :: .number false minute _ :: rest =>
      match rest with
      | .halfDay _ :: _ | .sign ':' :: _ :: .halfDay _ :: _ => none
      | rest => phrase.clock? hour minute rest
    | .divider :: _ => none
    | rest => some (phrase, rest)
  | .number true count _ :: .unit distance _ :: rest =>
    some ((phrase.numbered value digits).moved (distance.times count), rest)
  | .number true offset offsetDigits :: rest =>
    (phrase.timed value 0 0).offset? offset offsetDigits rest
  | .month month :: .number true year yearDigits :: rest =>
    some (phrase.dated (some (-year, yearDigits)) month value, rest)
  | .month month :: .number false year yearDigits :: rest =>
    some (phrase.dated (some (year, yearDigits)) month value, rest)
  | .month month :: rest => some (phrase.dated none month value, rest)
  | .weekday weekday :: rest => some (phrase.onWeekday weekday value, rest)
  | .unit distance _ :: rest => some (phrase.go (distance.times value) rest)
  | rest => some (phrase.numbered value digits, rest)

/-- A phrase with the next words that belong together, and the words that are left. -/
def take? (phrase : Phrase) : List Word → Option (Phrase × List Word)
  | .number false value digits :: rest => phrase.takeNumber? value digits rest
  | .month month :: .number true day _ :: .number true year yearDigits :: rest =>
    some (phrase.dated (some (-year, yearDigits)) month (-day), rest)
  | .month month :: .number false day _ :: .sign ',' :: .number false year yearDigits :: rest =>
    some (phrase.dated (some (year, yearDigits)) month day, rest)
  | .month month :: .number false day _ :: rest => some (phrase.dated none month day, rest)
  | .weekday weekday :: .sign ',' :: rest => some (phrase.onWeekday weekday 0, rest)
  | .weekday weekday :: rest => some (phrase.onWeekday weekday 0, rest)
  | .ordinal which :: .weekday weekday :: rest => some (phrase.onWeekday weekday which, rest)
  | .ordinal count :: .unit distance _ :: rest => some (phrase.go (distance.times count) rest)
  | .zone minutes :: .summer :: rest => some (phrase.zoned (minutes + 60), rest)
  | .zone minutes :: .number true count _ :: .unit distance _ :: rest =>
    some ((phrase.zoned minutes).moved (distance.times count), rest)
  | .zone minutes :: .number true value digits :: rest => do
    let (phrase, rest) ← phrase.offset? value digits rest
    return ({ phrase with zone := phrase.zone + minutes }, rest)
  | .zone minutes :: rest => some (phrase.zoned minutes, rest)
  | .summerZone minutes :: rest => some (phrase.zoned (minutes + 60), rest)
  | .divider :: .number true count _ :: .unit distance _ :: rest =>
    some ((phrase.zoned (-420)).moved (distance.times count), rest)
  | .divider :: rest => some (phrase.zoned (-420), rest)
  | .number true count _ :: .unit distance _ :: rest =>
    some (phrase.go (distance.times count) rest)
  | .fraction _ nanoseconds :: .unit _ true :: rest => some (phrase.go { nanoseconds } rest)
  | .unit distance _ :: rest => some (phrase.go distance rest)
  | .shift days :: rest => some (phrase.moved { days }, rest)
  | _ => none

def takeAll? (phrase : Phrase) : (fuel : Nat) → List Word → Option Phrase
  | _, [] => some phrase
  | 0, _ => none
  | fuel + 1, words => do
    let (phrase, rest) ← phrase.take? words
    phrase.takeAll? fuel rest

def hour? (phrase : Phrase) : Option Int :=
  match phrase.half with
  | none => if 0 ≤ phrase.hour && phrase.hour < 24 then some phrase.hour else none
  | some half =>
    if 0 < phrase.hour && phrase.hour ≤ 12 then
      some (phrase.hour % 12 + if half then 12 else 0)
    else none

/-- The year, of which only the last two digits may be told. -/
def fullYear (phrase : Phrase) : Int :=
  if phrase.yearDigits = 2 then phrase.year + if phrase.year < 69 then 2000 else 1900
  else phrase.year

/-- The moment that a phrase means, in nanoseconds, where clocks are so many minutes ahead. -/
def moment? (phrase : Phrase) (ahead : Int) : Option Int := do
  if 1 < phrase.dates || 1 < phrase.times || 1 < phrase.weekdays || 1 < phrase.zones then none
  let keepsTime := phrase.times ≠ 0 ||
    (phrase.isRelative && phrase.dates = 0 && phrase.weekdays = 0)
  let hour ← if keepsTime then phrase.hour? else some 0
  let (minute, second) := if keepsTime then (phrase.minute, phrase.second) else (0, 0)
  let start := dayNumber phrase.fullYear phrase.month phrase.day
  let date := dateOf start
  if phrase.month < 1 || 12 < phrase.month || (date.month : Int) ≠ phrase.month ||
      (date.day : Int) ≠ phrase.day || 59 < minute || 60 * 1000000000 ≤ second then none
  let wait := (phrase.weekday - (start + 4)) % 7
  let weeks := phrase.which - if 0 < phrase.which && wait ≠ 0 then 1 else 0
  let date := dateOf (if phrase.weekdays ≠ 0 && phrase.dates = 0 then start + wait + 7 * weeks
    else start)
  let day := dayNumber date.year (date.month + phrase.distance.months)
    (date.day + phrase.distance.days)
  let ahead := if phrase.zones = 0 then ahead else phrase.zone
  let minutes := (day * 24 + hour) * 60 + minute - ahead
  return minutes * 60000000000 + second + phrase.distance.nanoseconds

end Phrase

/-- The moment that a text means, in nanoseconds since the beginning of 1970, when it is now as late as
given and clocks are so many minutes ahead. -/
def ofText? (now : Int) (text : Raw) (ahead : Int := 0) : Option Int := do
  match ← Word.read? (text.length + 1) text with
  | [.sign '@', .number _ seconds _] => return seconds * 1000000000
  | [.sign '@', .fraction _ nanoseconds] => return nanoseconds
  | words =>
    let shown := now + ahead * 60000000000
    let current := readSeconds (shown / 1000000000)
    let phrase : Phrase := {
      year := current.year, month := current.month, day := current.day, hour := current.hour,
      minute := current.minute, second := current.second * 1000000000 + shown % 1000000000 }
    (← phrase.takeAll? (words.length + 1) words).moment? ahead

end WheelInstaller.Utility.Moment
