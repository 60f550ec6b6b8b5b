import WheelInstaller.Text.Fraction
import WheelInstaller.Utility.Quoting

/-! What `echo` and `printf` print. Both exist twice, in the shell and as programs, with small
differences. -/

namespace WheelInstaller.Utility

/-- Something that a command has to say. Complaints are lines without the name of the speaker. -/
inductive Utterance where
  | output (text : Raw)
  | complaint (message : Raw)
deriving DecidableEq, Repr

structure Outcome where
  utterances : List Utterance := []
  status : Nat := 0

namespace Outcome

def output (outcome : Outcome) : Raw :=
  outcome.utterances.flatMap fun
    | .output text => text
    | .complaint _ => []

def complaints (outcome : Outcome) : List Raw :=
  outcome.utterances.filterMap fun
    | .output _ => none
    | .complaint message => some message

end Outcome

/-- The two kinds of commands that exist twice. -/
inductive Dialect where
  /-- Those of the shell. -/
  | shell
  /-- Programs of their own. -/
  | program
deriving DecidableEq, Repr

namespace Printing

/-- Which escapes there are besides the usual ones. -/
structure Escapes where
  /-- After a zero, three more octal digits count. -/
  longZero : Bool
  /-- The letter c ends all output. -/
  stops : Bool
  /-- An x is followed by hexadecimal digits. -/
  hexadecimal : Bool
  /-- A double quote stands for itself. -/
  quote : Bool
  /-- A u is followed by the hexadecimal number of a character, and no number may be missing. -/
  characters : Bool

def letterEscape? : Char → Option Char
  | 'a' => some '\x07'
  | 'b' => some '\x08'
  | 'e' => some '\x1b'
  | 'f' => some '\x0c'
  | 'n' => some '\n'
  | 'r' => some '\r'
  | 't' => some '\t'
  | 'v' => some '\x0b'
  | '\\' => some '\\'
  | _ => none

def digit? (base : Nat) (c : Char) : Option Nat := do
  let value ← Fraction.hexDigit? c
  if value < base then some value else none

/-- The number of at most `count` digits to a base, and the text after them. -/
def takeAtMost (base : Nat) : (count : Nat) → Nat → Raw → Nat × Raw
  | count + 1, value, c :: rest =>
    match digit? base c with
    | some digit => takeAtMost base count (base * value + digit) rest
    | none => (value, c :: rest)
  | _, value, text => (value, text)

def byteOf (number : Nat) : Char :=
  Char.ofNat (number % 256)

/-- A number to the base sixteen with at least the given count of digits. -/
def hexadecimal (count value : Nat) : Raw :=
  let digits := Nat.toDigits 16 value
  List.replicate (count - digits.length) '0' ++ digits

/-- The complaint about an escape without the digits that it needs. -/
def missingDigits : Raw :=
  "missing hexadecimal number in escape".toList

/-- The text for the number of a character, after the letter that told the count of digits, and the
text after it. Beyond ASCII, the number itself is shown. -/
def readCharacter (letter : Char) (text : Raw) : Except Raw (Raw × Raw) :=
  let count := if letter = 'u' then 4 else 8
  let (value, rest) := takeAtMost 16 count 0 text
  if text.length < rest.length + count then .error missingDigits
  else if 0xd800 ≤ value && value ≤ 0xdfff then
    .error ("invalid universal character name \\".toList ++ letter :: hexadecimal count value)
  else if value < 128 then .ok ([Char.ofNat value], rest)
  else .ok ('\\' :: letter :: (hexadecimal count value).map Char.toUpper, rest)

/-- The bytes of the escape whose characters after the backslash are these, and the text after
it. -/
def readEscape (escapes : Escapes) (c : Char) (rest : Raw) : Except Raw (Raw × Raw) :=
  match letterEscape? c with
  | some byte => .ok ([byte], rest)
  | none =>
    if c = '0' && escapes.longZero then
      let (value, rest) := takeAtMost 8 3 0 rest
      .ok ([byteOf value], rest)
    else if (digit? 8 c).isSome then
      let (value, rest) := takeAtMost 8 3 0 (c :: rest)
      .ok ([byteOf value], rest)
    else if c = 'x' && escapes.hexadecimal then
      let (value, after) := takeAtMost 16 2 0 rest
      if after.length < rest.length then .ok ([byteOf value], after)
      else if escapes.characters then .error missingDigits
      else .ok (['\\', c], rest)
    else if (c = 'u' || c = 'U') && escapes.characters then readCharacter c rest
    else if c = '"' && escapes.quote then .ok (['"'], rest)
    else .ok (['\\', c], rest)

inductive Ending where
  /-- Output goes on. -/
  | goesOn
  /-- An escape ended all output. -/
  | stops
  /-- An escape was wrong. -/
  | fails (complaint : Raw)

/-- A text with its escapes replaced, the latest byte first, and how it ends. -/
def unescapeOnto (escapes : Escapes) : (fuel : Nat) → (written : Raw) → Raw → Raw × Ending
  | 0, written, _ | _ + 1, written, [] => (written, .goesOn)
  | fuel + 1, written, '\\' :: c :: rest =>
    if c = 'c' && escapes.stops then (written, .stops)
    else
      match readEscape escapes c rest with
      | .ok (bytes, rest) => unescapeOnto escapes fuel (bytes.reverse ++ written) rest
      | .error complaint => (written, .fails complaint)
  | fuel + 1, written, c :: rest => unescapeOnto escapes fuel (c :: written) rest

/-- A text with its escapes replaced, and how it ends. -/
def unescape (escapes : Escapes) (text : Raw) : Raw × Ending :=
  if text.contains '\\' then
    let (written, ending) := unescapeOnto escapes (text.length + 1) [] text
    (written.reverse, ending)
  else (text, .goesOn)

/-- The escapes in the texts of `echo`. -/
def echoEscapes : Dialect → Escapes
  | .shell => ⟨true, true, false, false, false⟩
  | .program => ⟨true, true, true, false, false⟩

/-- The escapes in texts that `printf` prints. -/
def textEscapes : Dialect → Escapes
  | .shell => ⟨true, true, false, false, false⟩
  | .program => ⟨true, true, true, true, true⟩

def formatEscapes : Dialect → Escapes
  | .shell => ⟨false, false, false, false, false⟩
  | .program => ⟨false, true, true, true, true⟩

/-- A text with its escapes replaced, if they count, and perhaps the end of the line. -/
def echoText (dialect : Dialect) (escaped newLine : Bool) (arguments : List Raw) : Raw :=
  let text := Raw.join [' '] arguments
  let (text, ending) := if escaped then unescape (echoEscapes dialect) text else (text, .goesOn)
  match ending with
  | .goesOn => if newLine then text ++ ['\n'] else text
  | _ => text

def echoOptions (escaped newLine : Bool) : List Raw → Bool × Bool × List Raw
  | ('-' :: letters) :: rest =>
    if !letters.isEmpty && letters.all fun c => c = 'n' || c = 'e' || c = 'E' then
      let escaped := letters.foldl (fun known c => if c = 'n' then known else c == 'e') escaped
      echoOptions escaped (newLine && !letters.contains 'n') rest
    else (escaped, newLine, ('-' :: letters) :: rest)
  | arguments => (escaped, newLine, arguments)

def echo (dialect : Dialect) (arguments : List Raw) : Raw :=
  match dialect with
  | .shell =>
    match arguments with
    | ['-', 'n'] :: rest => echoText dialect true false rest
    | _ => echoText dialect true true arguments
  | .program =>
    let (escaped, newLine, arguments) := echoOptions false true arguments
    echoText dialect escaped newLine arguments

/-- What a format asks for at one place. -/
structure Directive where
  minus : Bool := false
  plus : Bool := false
  blank : Bool := false
  alternate : Bool := false
  zero : Bool := false
  grouped : Bool := false
  /-- There is a point, which a precision may follow. -/
  pointed : Bool := false
  width : Nat := 0
  precision : Option Nat := none
deriving DecidableEq, Repr

namespace Directive

def readFlags (directive : Directive) (dialect : Dialect) : Raw → Directive × Raw
  | '-' :: rest => readFlags { directive with minus := true } dialect rest
  | '+' :: rest => readFlags { directive with plus := true } dialect rest
  | ' ' :: rest => readFlags { directive with blank := true } dialect rest
  | '#' :: rest => readFlags { directive with alternate := true } dialect rest
  | '0' :: rest => readFlags { directive with zero := true } dialect rest
  | '\x27' :: rest =>
    if dialect = .program then readFlags { directive with grouped := true } dialect rest
    else (directive, '\x27' :: rest)
  | 'I' :: rest =>
    if dialect = .program then readFlags { directive with grouped := true } dialect rest
    else (directive, 'I' :: rest)
  | rest => (directive, rest)

/-- Whether a letter may follow. The shell takes them all. -/
def allows (directive : Directive) (dialect : Dialect) (letter : Char) : Bool :=
  let isCut (cut : Bool) (letters : String) : Bool := cut && letters.toList.contains letter
  dialect = .shell ||
    !(isCut directive.grouped "aAceEosxX" || isCut directive.alternate "cdisu" ||
      isCut directive.zero "cs" || isCut directive.pointed "c")

/-- Whether nothing can be printed that wide. -/
def isHuge (directive : Directive) : Bool :=
  0x7fffffff < directive.width || 0x7fffffff < directive.precision.getD 0

/-- Fills a text up to the width, with zeros after the sign if those are asked for. -/
def pad (directive : Directive) (sign body : Raw) (zeros : Bool) : Raw :=
  let missing := directive.width - (sign.length + body.length)
  if directive.minus then sign ++ body ++ List.replicate missing ' '
  else if zeros then sign ++ List.replicate missing '0' ++ body
  else List.replicate missing ' ' ++ sign ++ body

/-- A text, at most as long as the precision, filled up to the width. -/
def text (directive : Directive) (text : Raw) : Raw :=
  let text := match directive.precision with
    | some count => text.take count
    | none => text
  if directive.width ≤ 0 then text else directive.pad [] text false

def sign (directive : Directive) (negative : Bool) : Raw :=
  if negative then ['-']
  else if directive.plus then ['+']
  else if directive.blank then [' ']
  else []

def digits (directive : Directive) (base value : Nat) : Raw :=
  let digits := if value = 0 && directive.precision = some 0 then [] else Nat.toDigits base value
  List.replicate (directive.precision.getD 1 - digits.length) '0' ++ digits

def signed (directive : Directive) (value : Int) : Raw :=
  directive.pad (directive.sign (value < 0)) (directive.digits 10 value.natAbs)
    (directive.zero && directive.precision.isNone)

/-- A number without a sign. -/
def unsigned (directive : Directive) (letter : Char) (value : Nat) : Raw :=
  let base := match letter with
    | 'o' => 8
    | 'u' => 10
    | _ => 16
  let digits := directive.digits base value
  let mark :=
    if !directive.alternate then []
    else if letter = 'o' && digits.head? ≠ some '0' then ['0']
    else if (letter = 'x' || letter = 'X') && value ≠ 0 then ['0', 'x']
    else []
  let text := directive.pad mark digits (directive.zero && directive.precision.isNone)
  if letter = 'X' then text.map Char.toUpper else text

end Directive

/-- A number with a fraction, as far as it is one. -/
inductive Magnitude where
  | finite (value : Fraction)
  | infinite
  | notNumber

/-- How numbers with a fraction are held. -/
def precisionOf : Dialect → Fraction.Precision
  | .shell => Fraction.double
  | .program => Fraction.extended

/-- A number with a fraction in the form that a letter asks for. -/
def Directive.fraction (directive : Directive) (dialect : Dialect) (letter : Char)
    (negative : Bool) (value : Magnitude) : Raw :=
  let places := directive.precision.getD 6
  let sign := directive.sign negative
  let text := match value with
    | .infinite => directive.pad sign "inf".toList false
    | .notNumber => directive.pad sign "nan".toList false
    | .finite value =>
      match letter.toLower with
      | 'f' => directive.pad sign (value.fixed places directive.alternate) directive.zero
      | 'e' => directive.pad sign (value.scientific places directive.alternate 'e') directive.zero
      | 'g' => directive.pad sign (value.general places directive.alternate 'e') directive.zero
      | _ =>
        directive.pad (sign ++ ['0', 'x'])
          (value.hexadecimal (precisionOf dialect) directive.precision directive.alternate)
          directive.zero
  if letter.isUpper then text.map Char.toUpper else text

/-- The complaint about an argument that is no number, or no number to its end. -/
def numberComplaint (dialect : Dialect) (argument : Raw) (found : Bool) : Raw :=
  match dialect, found with
  | .shell, false => argument ++ ": expected numeric value".toList
  | .shell, true => argument ++ ": not completely converted".toList
  | .program, false => quoteWord argument ++ ": expected a numeric value".toList
  | .program, true => quoteWord argument ++ ": value not completely converted".toList

def rangeComplaint (dialect : Dialect) (argument : Raw) : Raw :=
  match dialect with
  | .shell => argument ++ ": Numerical result out of range".toList
  | .program => quoteWord argument ++ ": Numerical result out of range".toList

/-- The sign at the start of a text, and the text after it. -/
def takeSign (text : Raw) : Bool × Raw :=
  match text with
  | '-' :: rest => (true, rest)
  | '+' :: rest => (false, rest)
  | text => (false, text)

/-- The base that the letter after a leading zero stands for. -/
def baseOf? (c : Char) : Option Nat :=
  if c = 'x' || c = 'X' then some 16
  else if c = 'b' || c = 'B' then some 2
  else none

/-- The whole number at the start of a text, and the text after it. A leading zero means octal,
unless a letter and a digit follow it. -/
def takeNumber? (text : Raw) : Option (Nat × Raw) :=
  let digits (base : Nat) (text : Raw) : Nat × Raw := takeAtMost base text.length 0 text
  match text with
  | '0' :: rest =>
    match rest with
    | letter :: c :: _ =>
      match baseOf? letter with
      | some base =>
        if (digit? base c).isSome then some (digits base (rest.drop 1)) else some (0, rest)
      | none => some (digits 8 rest)
    | rest => some (digits 8 rest)
  | c :: _ => if c.isDigit then some (digits 10 text) else none
  | [] => none

/-- What is to be said about an argument: a warning, or a complaint that makes the command fail. -/
structure Remark where
  text : Raw
  fails : Bool := true

/-- The number of the character after a quote, and a warning if there are more. -/
def characterArgument (dialect : Dialect) (c : Char) (rest : Raw) : Nat × List Remark :=
  (c.toNat,
    if dialect = .program && !rest.isEmpty then
      [⟨"warning: ".toList ++ rest ++
        ": character(s) following character constant have been ignored".toList, false⟩]
    else [])

/-- The number in 64 bits that an argument is, and what there is to say about it. After a quote, the
next character counts as its code. -/
def integerArgument (dialect : Dialect) (isSigned : Bool) (argument : Raw) : Int × List Remark :=
  match argument with
  | [] => (0, [])
  | '"' :: c :: rest | '\x27' :: c :: rest =>
    let (value, remarks) := characterArgument dialect c rest
    (value, remarks)
  | ['"'] | ['\x27'] =>
    if dialect = .shell then (0, []) else (0, [⟨numberComplaint dialect argument false, true⟩])
  | _ =>
    let (negative, text) := takeSign (argument.dropWhile Raw.isSpace)
    match takeNumber? text with
    | none => (0, [⟨numberComplaint dialect argument false, true⟩])
    | some (value, rest) =>
      let largest : Nat := if isSigned then 0x7fffffffffffffff else 0xffffffffffffffff
      let value : Int := if negative then -value else value
      let bounded : Int :=
        if isSigned && value < -largest - 1 then -largest - 1
        else if largest < value || value < -largest - 1 then largest
        else value
      if dialect = .shell && !rest.isEmpty then
        (bounded, [⟨numberComplaint dialect argument true, true⟩])
      else if bounded ≠ value then (bounded, [⟨rangeComplaint dialect argument, true⟩])
      else if rest.isEmpty then (value, [])
      else (value, [⟨numberComplaint dialect argument true, true⟩])

/-- The number with a fraction at the start of a text without a sign, and the text after it. -/
def takeMagnitude? (precision : Fraction.Precision) (text : Raw) :
    Option (Magnitude × Bool × Raw) :=
  let lower := text.map Char.toLower
  if "infinity".toList.isPrefixOf lower then some (.infinite, true, text.drop 8)
  else if "inf".toList.isPrefixOf lower then some (.infinite, true, text.drop 3)
  else if "nan".toList.isPrefixOf lower then some (.notNumber, true, text.drop 3)
  else
    (Fraction.take? text).map fun (value, rest) =>
      match value.limit precision with
      | some nearest =>
        let vanishes := nearest.numerator = 0 && value.numerator ≠ 0
        (.finite nearest, !vanishes, rest)
      | none => (.infinite, false, rest)

def fractionArgument (dialect : Dialect) (argument : Raw) : Bool × Magnitude × List Remark :=
  let zero : Magnitude := .finite ⟨0, 1⟩
  match argument with
  | [] => (false, zero, [])
  | '"' :: c :: rest | '\x27' :: c :: rest =>
    let (value, remarks) := characterArgument dialect c rest
    (false, .finite ⟨value, 1⟩, remarks)
  | _ =>
    let (negative, text) := takeSign (argument.dropWhile Raw.isSpace)
    match takeMagnitude? (precisionOf dialect) text with
    | none => (false, zero, [⟨numberComplaint dialect argument false, true⟩])
    | some (value, fits, rest) =>
      (negative, value,
        if dialect = .shell && !rest.isEmpty then
          [⟨numberComplaint dialect argument true, true⟩]
        else if !fits then [⟨rangeComplaint dialect argument, true⟩]
        else if rest.isEmpty then []
        else [⟨numberComplaint dialect argument true, true⟩])

/-- What is printed for one directive, what there is to say about it, and how it ends. -/
def convert (dialect : Dialect) (directive : Directive) (letter : Char) (argument : Raw) :
    Option (Raw × List Remark × Ending) :=
  match letter with
  | 's' => some (directive.text argument, [], .goesOn)
  | 'c' =>
    some ({ directive with precision := none }.text ((argument ++ ['\x00']).take 1), [], .goesOn)
  | 'b' =>
    if dialect = .program then none
    else
      let (text, ending) := unescape (textEscapes dialect) argument
      some (directive.text text, [], ending)
  | 'd' | 'i' =>
    let (value, remarks) := integerArgument dialect true argument
    some (directive.signed value, remarks, .goesOn)
  | 'o' | 'u' | 'x' | 'X' =>
    let (value, remarks) := integerArgument dialect false argument
    some (directive.unsigned letter (value % 0x10000000000000000).toNat, remarks, .goesOn)
  | 'a' | 'A' | 'f' | 'F' | 'e' | 'E' | 'g' | 'G' =>
    let (negative, value, remarks) := fractionArgument dialect argument
    some (directive.fraction dialect letter negative value, remarks, .goesOn)
  | _ => none

/-- What is printed for an argument as a whole, which only programs do, after one of two letters. -/
def convertWhole? (dialect : Dialect) (letter : Char) (argument : Option Raw) :
    Option (Raw × Ending) :=
  match dialect, letter with
  | .program, 'b' => some (unescape (textEscapes dialect) (argument.getD []))
  | .program, 'q' => some ((argument.map showName).getD [], .goesOn)
  | _, _ => none

/-- A number in a format, or the argument that stands for it, of which only a part may count. -/
structure Size where
  value : Int := 0
  /-- What there is to say about it. -/
  remarks : List Remark := []
  /-- Why it cannot be used. -/
  fault : Option Raw := none

/-- Reads a number in a format, or an asterisk for an argument. -/
def readSize (dialect : Dialect) (isWidth : Bool) (text : Raw) (arguments : List Raw) :
    Size × Raw × List Raw :=
  match text with
  | '*' :: rest =>
    let argument := arguments.headD []
    let (value, remarks) := integerArgument dialect true argument
    let size : Size := match dialect with
      | .shell => { value := value.bmod 0x100000000, remarks }
      | .program =>
        let isSmall := value < -0x80000000
        let words := if isWidth then "invalid field width: " else "invalid precision: "
        if 0x7fffffff < value || (isWidth && isSmall) then
          { value, remarks, fault := some (words.toList ++ quoteWord argument) }
        else { value, remarks }
    (size, rest, arguments.tail)
  | text =>
    let run := text.takeWhile Char.isDigit
    ({ value := (Raw.digitsValue run : Nat) }, text.drop run.length, arguments)

/-- A directive as far as its letter. -/
structure Opening where
  directive : Directive
  /-- What there is to say about it. -/
  remarks : List Remark
  /-- Why it cannot be used. -/
  fault : Option Raw
  /-- The text after it. -/
  rest : Raw
  /-- The arguments that are left. -/
  arguments : List Raw

def Opening.read (dialect : Dialect) (text : Raw) (arguments : List Raw) : Opening :=
  let (directive, rest) := ({} : Directive).readFlags dialect text
  let (width, rest, arguments) := readSize dialect true rest arguments
  let directive :=
    { directive with
      width := width.value.natAbs, minus := directive.minus || width.value < 0 }
  match width.fault, rest with
  | none, '.' :: rest =>
    let (precision, rest, arguments) := readSize dialect false rest arguments
    { directive := { directive with
        pointed := true
        precision := if precision.value < 0 then none else some precision.value.toNat }
      remarks := width.remarks ++ precision.remarks, fault := precision.fault, rest, arguments }
  | fault, rest => { directive, remarks := width.remarks, fault, rest, arguments }

/-- What passes over a format have come to. -/
structure Pass where
  /-- What there is to say, the latest first. -/
  utterances : List Utterance := []
  status : Nat := 0
  /-- The arguments that are left. -/
  arguments : List Raw
  /-- Output goes on. -/
  goes : Bool := true
  /-- Something could not be printed. -/
  isLacking : Bool := false

namespace Pass

def put (pass : Pass) (text : Raw) : Pass :=
  { pass with utterances := .output text :: pass.utterances }

def say (pass : Pass) (remarks : List Remark) : Pass :=
  remarks.foldl (fun pass remark => { pass with
    utterances := .complaint remark.text :: pass.utterances
    status := if remark.fails then max pass.status 1 else pass.status }) pass

def stop (pass : Pass) (complaint : Raw) (status : Nat) : Pass :=
  { pass with
    utterances := .complaint complaint :: pass.utterances
    status, arguments := [], goes := false }

/-- The pass that an escape ended; what went wrong before does not matter to programs. -/
def close (pass : Pass) (dialect : Dialect) : Pass :=
  { pass with
    arguments := [], goes := false
    status := match dialect with
      | .shell => pass.status
      | .program => 0 }

def follow (pass : Pass) (dialect : Dialect) : Ending → Pass
  | .goesOn => pass
  | .stops => pass.close dialect
  | .fails complaint => pass.stop complaint 1

end Pass

def directiveComplaint (dialect : Dialect) (written : Raw) (rest : Raw) : Raw × Nat :=
  match dialect, rest with
  | .shell, [] => ("missing format character".toList, 2)
  | .shell, _ => ('%' :: written ++ ": invalid directive".toList, 2)
  | .program, _ => ('%' :: written ++ ": invalid conversion specification".toList, 1)

/-- The letters between a directive and its letter that only tell how large a number is. -/
def isLength (c : Char) : Bool :=
  c = 'l' || c = 'h' || c = 'j' || c = 'z' || c = 't' || c = 'L'

/-- Prints what a directive asks for. Tells the text after it. -/
def applyDirective (dialect : Dialect) (text : Raw) (pass : Pass) : Pass × Raw :=
  let opening := Opening.read dialect text pass.arguments
  let sized := if dialect = .program then opening.rest.dropWhile isLength else opening.rest
  let pass := { pass.say opening.remarks with arguments := opening.arguments }
  let converted := match sized with
    | letter :: after =>
      if opening.directive.allows dialect letter then
        if opening.directive.isHuge then
          (convert dialect {} letter []).map fun _ => (none, after)
        else
          (convert dialect opening.directive letter (pass.arguments.headD [])).map fun found =>
            (some found, after)
      else none
    | [] => none
  match opening.fault, converted with
  | some fault, _ => (pass.stop fault 1, [])
  | none, some (some (bytes, remarks, ending), after) =>
    let pass := { (pass.say remarks).put bytes with arguments := pass.arguments.tail }
    (pass.follow dialect ending, after)
  | none, some (none, after) =>
    match dialect with
    | .shell => (pass.stop "xvsnprintf failed".toList 2, [])
    | .program => ({ pass with arguments := pass.arguments.tail, isLacking := true }, after)
  | none, none =>
    let written := text.take (text.length - sized.length + 1)
    let (complaint, status) := directiveComplaint dialect written sized
    (pass.stop complaint status, [])

def formatOnce (dialect : Dialect) : (fuel : Nat) → Raw → Pass → Pass
  | 0, _, pass | _ + 1, [], pass => pass
  | fuel + 1, '%' :: '%' :: rest, pass => formatOnce dialect fuel rest (pass.put ['%'])
  | fuel + 1, '%' :: text, pass =>
    let letter := text.headD '%'
    let (pass, rest) := match convertWhole? dialect letter pass.arguments.head? with
      | some (bytes, ending) =>
        let pass := { pass.put bytes with arguments := pass.arguments.tail }
        (pass.follow dialect ending, text.tail)
      | none => applyDirective dialect text pass
    if pass.goes then formatOnce dialect fuel rest pass else pass
  | fuel + 1, '\\' :: c :: rest, pass =>
    if c = 'c' && (formatEscapes dialect).stops then pass.close dialect
    else
      match readEscape (formatEscapes dialect) c rest with
      | .ok (bytes, rest) => formatOnce dialect fuel rest (pass.put bytes)
      | .error complaint => pass.stop complaint 1
  | fuel + 1, c :: rest, pass =>
    let run := rest.takeWhile fun c => c ≠ '%' && c ≠ '\\'
    formatOnce dialect fuel (rest.drop run.length) (pass.put (c :: run))

/-- Goes over a format as long as arguments are left and get used. -/
def formatAll (dialect : Dialect) (format : Raw) : (rounds : Nat) → Pass → Pass
  | 0, pass => pass
  | rounds + 1, before =>
    let pass := formatOnce dialect (format.length + 1) format before
    if !pass.goes || pass.arguments.isEmpty then pass
    else if pass.arguments.length = before.arguments.length then
      match dialect, pass.arguments with
      | .program, first :: _ =>
        pass.say [⟨"warning: ignoring excess arguments, starting with ".toList ++ quoteWord first,
          false⟩]
      | _, _ => pass
    else formatAll dialect format rounds pass

/-- What `printf` prints. -/
def printFormat (dialect : Dialect) (format : Raw) (arguments : List Raw) : Outcome :=
  let pass := formatAll dialect format (arguments.length + 1) { arguments }
  let lack := if pass.isLacking then [Utterance.complaint "write error".toList] else []
  { utterances := pass.utterances.reverse ++ lack
    status := if pass.isLacking then 1 else pass.status }

end Printing
end WheelInstaller.Utility
