import WheelInstaller.Utility.Quoting
import WheelInstaller.Utility.Options
import WheelInstaller.Utility.TextPattern

/-! `nl`: lines with numbers. Some lines part a text into pages, each with a header, a body and a
footer. -/

namespace WheelInstaller.Utility.Numbering

open Process

inductive Style where
  | all
  | nonempty
  | none
  | fitting (pattern : TextPattern)

/-- Where a number stands in its column. -/
inductive Alignment where
  | left
  | right
  /-- To the right, with zeros before it. -/
  | padded
deriving DecidableEq, Repr

inductive Section where
  | header
  | body
  | footer
deriving DecidableEq, Repr

structure Settings where
  header : Style := .none
  body : Style := .nonempty
  footer : Style := .none
  /-- What lines that part pages consist of. -/
  delimiter : Raw := ['\\', ':']
  step : Int := 1
  /-- So many empty lines count as one. -/
  emptyLines : Nat := 1
  alignment : Alignment := .right
  /-- Numbers start anew on every page. -/
  restarts : Bool := true
  separator : Raw := ['\t']
  start : Int := 1
  width : Nat := 6
  /-- Something was told that is not understood. -/
  isWrong : Bool := false

def options : Options where
  letters := Options.valuedLetters "bdfhilnsvw" ++ Options.plainLetters "p"
  words := [
    ("header-numbering", .valued, "h"), ("body-numbering", .valued, "b"),
    ("footer-numbering", .valued, "f"), ("starting-line-number", .valued, "v"),
    ("line-increment", .valued, "i"), ("no-renumber", .plain, "p"),
    ("join-blank-lines", .valued, "l"), ("number-separator", .valued, "s"),
    ("number-width", .valued, "w"), ("number-format", .valued, "n"),
    ("section-delimiter", .valued, "d")]

/-- The number that an option was given, within bounds. -/
def readNumber (what : String) (least largest : Int) (text : Raw) : Utility Int := do
  let trimmed := text.dropWhile Raw.isSpace
  let (negative, digits) := match trimmed with
    | '-' :: rest => (true, rest)
    | '+' :: rest => (false, rest)
    | rest => (false, rest)
  let complaint := "invalid ".toList ++ what.toList ++ ": ".toList ++ quoteWord text
  if digits.isEmpty || !digits.all Char.isDigit then die 1 complaint
  else
    let magnitude : Int := Raw.digitsValue digits
    let value := if negative then -magnitude else magnitude
    if value < least || largest < value then
      let isHuge := value < -0x8000000000000000 || 0x7fffffffffffffff < value
      let reason := if isHuge then "Value too large for defined data type"
        else "Numerical result out of range"
      die 1 (complaint ++ ": ".toList ++ reason.toList)
    else return value

def readStyle (text : Raw) : Utility (Option Style) := do
  match text with
  | 'a' :: _ => return some .all
  | 't' :: _ => return some .nonempty
  | 'n' :: _ => return some .none
  | 'p' :: pattern =>
    match TextPattern.read {} pattern with
    | .ok pattern => return some (.fitting pattern)
    | .error complaint => die 1 complaint.toList
  | _ => return none

def Settings.refuse (settings : Settings) (what : String) (text : Raw) : Utility Settings := do
  complain ("invalid ".toList ++ what.toList ++ ": ".toList ++ quoteWord text)
  return { settings with isWrong := true }

def Settings.take (settings : Settings) (key : String) (value : Raw) : Utility Settings := do
  let largest : Int := 0x7fffffffffffffff
  let least : Int := -0x8000000000000000
  match key with
  | "h" =>
    match ← readStyle value with
    | some header => return { settings with header }
    | none => settings.refuse "header numbering style" value
  | "b" =>
    match ← readStyle value with
    | some body => return { settings with body }
    | none => settings.refuse "body numbering style" value
  | "f" =>
    match ← readStyle value with
    | some footer => return { settings with footer }
    | none => settings.refuse "footer numbering style" value
  | "v" => return { settings with start := ← readNumber "starting line number" least largest value }
  | "i" => return { settings with step := ← readNumber "line number increment" least largest value }
  | "l" =>
    let count ← readNumber "line number of blank lines" 1 largest value
    return { settings with emptyLines := count.toNat }
  | "w" =>
    let width ← readNumber "line number field width" 1 0x7fffffff value
    return { settings with width := width.toNat }
  | "s" => return { settings with separator := value }
  | "p" => return { settings with restarts := false }
  | "n" =>
    match String.ofList value with
    | "ln" => return { settings with alignment := .left }
    | "rn" => return { settings with alignment := .right }
    | "rz" => return { settings with alignment := .padded }
    | _ => settings.refuse "line numbering format" value
  | _ =>
    match value with
    | [c] => return { settings with delimiter := c :: settings.delimiter.drop 1 }
    | value => return { settings with delimiter := value }

def Settings.section? (settings : Settings) (line : Raw) : Option Section :=
  let mark := settings.delimiter
  if mark.length < 2 then none
  else if line = mark ++ mark ++ mark then some .header
  else if line = mark ++ mark then some .body
  else if line = mark then some .footer
  else none

structure Progress where
  number : Int
  style : Style
  /-- How many empty lines in a row got no number. -/
  empty : Nat := 0

def Settings.column (settings : Settings) (number : Int) : Raw :=
  let digits := Raw.ofInt number
  let gap := settings.width - digits.length
  match settings.alignment with
  | .left => digits ++ List.replicate gap ' '
  | .right => List.replicate gap ' ' ++ digits
  | .padded =>
    if number < 0 then '-' :: List.replicate gap '0' ++ digits.drop 1
    else List.replicate gap '0' ++ digits

/-- The line gets a number, and how many empty lines without one there are after it. -/
def Settings.isNumbered (settings : Settings) (progress : Progress) (line : Raw) : Bool × Nat :=
  match progress.style with
  | .all =>
    if settings.emptyLines ≤ 1 then (true, progress.empty)
    else if !line.isEmpty || progress.empty + 1 = settings.emptyLines then (true, 0)
    else (false, progress.empty + 1)
  | .nonempty => (!line.isEmpty, progress.empty)
  | .none => (false, progress.empty)
  | .fitting pattern => ((pattern.find? line).isSome, progress.empty)

def Settings.render (settings : Settings) (progress : Progress) (line : Raw) : Raw × Progress :=
  match settings.section? line with
  | some part =>
    let style := match part with
      | .header => settings.header
      | .body => settings.body
      | .footer => settings.footer
    let number := if settings.restarts then settings.start else progress.number
    (['\n'], { progress with number, style })
  | none =>
    let (numbered, empty) := settings.isNumbered progress line
    if numbered then
      (settings.column progress.number ++ settings.separator ++ line ++ ['\n'],
        { progress with number := progress.number + settings.step, empty })
    else
      let blank := List.replicate (settings.width + settings.separator.length) ' '
      (blank ++ line ++ ['\n'], { progress with empty })

def each (settings : Settings) : Progress → List Raw → Utility Unit
  | _, [] => return ()
  | progress, name :: rest => do
    let isInput : Bool := name == ['-']
    match ← if isInput then pure (.ok input) else openFile name with
    | .error error =>
      fault (because (showName name) error)
      each settings progress rest
    | .ok descriptor =>
      let outcome ← readAll descriptor
      if !isInput then close descriptor
      match outcome with
      | .error error =>
        fault (because (showName name) error)
        each settings progress rest
      | .ok bytes =>
        let lines := Raw.lines '\n' (Raw.ofBytes bytes)
        let (written, progress) := lines.foldl (fun (written, progress) line =>
          let (text, progress) := settings.render progress line
          (text :: written, progress)) (([] : List Raw), progress)
        written.reverse.forM print
        each settings progress rest

/-- `nl`. -/
def run (arguments : List Raw) : Utility Unit := do
  let (settings, names) ← readOptions options 1 ({} : Settings) Settings.take arguments
  if settings.isWrong then suggest 1
  let names := if names.isEmpty then [['-']] else names
  each settings { number := settings.start, style := settings.body } names
  closeInput names

end WheelInstaller.Utility.Numbering
