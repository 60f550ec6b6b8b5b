import WheelInstaller.Utility.Calendar
import WheelInstaller.Utility.Listing
import WheelInstaller.Utility.Printing

/-! `stat`: what is known about files. -/

namespace WheelInstaller.Utility.Particulars

open Printing (Directive)
open Process

inductive Layout where
  | usual
  /-- What a format says, in a line of its own. -/
  | lines (format : Raw)
  /-- What a format with escapes says. -/
  | exactly (format : Raw)
deriving DecidableEq, Repr

structure Settings where
  layout : Layout := .usual
  follows : Bool := false

def options : Options where
  letters := Options.plainLetters "L" ++ Options.valuedLetters "c"
  words := [("dereference", .plain, "L"), ("format", .valued, "c"), ("printf", .valued, "printf")]

def Settings.take (settings : Settings) (key : String) (value : Raw) : Utility Settings :=
  return match key with
  | "L" => { settings with follows := true }
  | "c" => { settings with layout := .lines value }
  | _ => { settings with layout := .exactly value }

/-- A file and what is known about it. -/
structure Subject where
  name : Raw
  status : Status
  /-- Where it leads. -/
  target : Option Raw := none

namespace Subject

def kindWords (subject : Subject) : Raw :=
  match subject.status.kind with
  | .file => if subject.status.size = 0 then "regular empty file".toList else "regular file".toList
  | .directory => "directory".toList
  | .link => "symbolic link".toList
  | .device => "character special file".toList
  | .pipe => "fifo".toList

def kindBits (subject : Subject) : Nat :=
  match subject.status.kind with
  | .file => 0o100000
  | .directory => 0o040000
  | .link => 0o120000
  | .device => 0o020000
  | .pipe => 0o010000

def letters (subject : Subject) : Raw :=
  Listing.kindLetter subject.status.kind :: Mode.letters subject.status.mode

/-- How many blocks of 512 bytes it takes up. -/
def blocks (subject : Subject) : Nat :=
  match subject.status.kind with
  | .file => (subject.status.size + 4095) / 4096 * 8
  | .directory => 8
  | _ => 0

def names (subject : Subject) : Nat :=
  max 1 subject.status.names

def route (subject : Subject) (shown : Raw → Raw) : Raw :=
  match subject.target with
  | some target => shown subject.name ++ " -> ".toList ++ shown target
  | none => shown subject.name

/-- What a letter stands for, unless it stands for nothing. -/
def fact? (subject : Subject) (directive : Directive) (letter : Char) : Option Raw :=
  let status := subject.status
  let text (value : Raw) : Option Raw := some (directive.text value)
  let number (value : Nat) : Option Raw := some (directive.unsigned 'u' value)
  let hexadecimal (value : Nat) : Option Raw := some (directive.unsigned 'x' value)
  match letter with
  | 'a' => some (directive.unsigned 'o' (status.mode &&& Mode.allBits))
  | 'A' => text subject.letters
  | 'b' => number subject.blocks
  | 'B' => number 512
  | 'd' => number 64768
  | 'D' => hexadecimal 64768
  | 'f' => hexadecimal (subject.kindBits ||| status.mode)
  | 'F' => text subject.kindWords
  | 'g' | 'u' => number 0
  | 'G' | 'U' => text "root".toList
  | 'h' => number subject.names
  | 'i' => number ((subject.name.foldl (fun sum c => (sum * 31 + c.toNat) % 900000) 7) + 100000)
  | 'm' => text ['/']
  | 'n' => text subject.name
  | 'N' => some (subject.route (if directive = {} then quoteName else directive.text))
  | 'o' => number 4096
  | 'r' | 'R' | 't' | 'T' => hexadecimal 0
  | 's' => number status.size
  | 'w' | 'x' | 'y' | 'z' => text (Calendar.full (status.modified * 1000))
  | 'W' | 'X' | 'Y' | 'Z' =>
    some ({ directive with precision := none : Directive }.signed
      (status.modified / Moment.second : Nat))
  | _ => none

end Subject

/-- Reads the number at the start of a text, as far as there is one. -/
def readNumber (text : Raw) : Option Nat × Raw :=
  let digits := text.takeWhile Char.isDigit
  (if digits.isEmpty then none else some (Raw.digitsValue digits), text.drop digits.length)

/-- Reads what stands between a percent sign and its letter. -/
def readDirective (text : Raw) : Directive × Raw :=
  let (directive, text) := Directive.readFlags {} .program text
  let (width, text) := readNumber text
  let directive := { directive with width := width.getD 0 }
  match text with
  | '.' :: rest =>
    let (precision, rest) := readNumber rest
    ({ directive with pointed := true, precision := some (precision.getD 0) }, rest)
  | text => (directive, text)

/-- Prints what a backslash and the text after it stand for, and gives the rest. -/
def printEscape : Raw → Utility Raw
  | [] => do
    complain "warning: backslash at end of format".toList
    print ['\\']
    return []
  | c :: rest => do
    match Printing.digit? 8 c, Printing.letterEscape? c with
    | some _, _ =>
      let (value, rest) := Printing.takeAtMost 8 3 0 (c :: rest)
      print [Printing.byteOf value]
      return rest
    | none, some byte =>
      print [byte]
      return rest
    | none, none =>
      let (value, after) := Printing.takeAtMost 16 2 0 rest
      if c = 'x' && after.length < rest.length then
        print [Printing.byteOf value]
        return after
      else
        if c ≠ '"' && c ≠ '\\' then
          complain ("warning: unrecognized escape '\\".toList ++ [c, '\x27'])
        print [c]
        return rest

/-- Prints what a format says about a file. -/
def printAs (subject : Subject) (escapes : Bool) : (fuel : Nat) → Raw → Utility Unit
  | 0, _ | _ + 1, [] => return ()
  | fuel + 1, '%' :: text => do
    let (directive, rest) := readDirective text
    let written := text.take (text.length - rest.length)
    let refuse (letter : Raw) : Utility Unit :=
      die 1 (quoteWord ('%' :: written ++ letter) ++ ": invalid directive".toList)
    match rest with
    | [] =>
      if written.isEmpty then print ['%'] else refuse []
    | letter :: rest =>
      let (isPart, letter, rest) : Bool × Char × Raw := match letter, rest with
        | 'H', 'd' :: rest | 'L', 'd' :: rest | 'H', 'r' :: rest | 'L', 'r' :: rest =>
          (true, letter, rest)
        | letter, rest => (false, letter, rest)
      if letter = '%' then
        if written.isEmpty then print ['%'] else refuse ['%']
      else if isPart then print (directive.unsigned 'u' (if letter = 'H' then 253 else 0))
      else
        if letter = 'C' then
          fault ("failed to get security context of ".toList ++ quoteName subject.name ++
            ": No data available".toList)
        print ((subject.fact? directive letter).getD ['?'])
      printAs subject escapes fuel rest
  | fuel + 1, '\\' :: text => do
    if escapes then printAs subject escapes fuel (← printEscape text)
    else
      print ['\\']
      printAs subject escapes fuel text
  | fuel + 1, c :: text => do
    print [c]
    printAs subject escapes fuel text

/-- The format of what is told if nothing else is asked for. -/
def usualFormat (subject : Subject) : String :=
  let isDevice := subject.status.kind = .device
  let device := if isDevice then "     Device type: 1,3" else ""
  "\n  Size: %-10s\tBlocks: %-10b IO Block: %-6o %F\nDevice: %Hd,%Ld\tInode: %-10i  " ++
    "Links: %h" ++ device ++ "\nAccess: (%04a/%10.10A)  Uid: (%5u/%8U)   Gid: (%5g/%8G)\n" ++
    "Access: %x\nModify: %y\nChange: %z\n Birth: %w\n"

def tell (settings : Settings) (name : Raw) : Utility Unit := do
  let isInput : Bool := name == ['-']
  let place := if isInput then "/dev/stdin".toList else name
  match ← statusOf place (settings.follows || isInput) with
  | .error error =>
    fault (because ("cannot statx ".toList ++ quoteName name) error)
  | .ok status =>
    let target ← if status.kind = .link then
        match ← ask (.readLink ⟨Raw.toString name⟩) with
        | .ok target => pure (some target)
        | .error _ => pure none
      else pure none
    let subject : Subject := { name, status, target }
    let (format, escapes, ending) : Raw × Bool × Raw := match settings.layout with
      | .usual => ((usualFormat subject).toList, false, [])
      | .lines format => (format, false, ['\n'])
      | .exactly format => (format, true, [])
    if settings.layout = .usual then print ("  File: ".toList ++ subject.route id)
    printAs subject escapes (format.length + 1) format
    print ending

/-- `stat`. -/
def run (arguments : List Raw) : Utility Unit := do
  let (settings, names) ← readOptions options 1 ({} : Settings) Settings.take arguments
  if names.isEmpty then misuse 1 "missing operand".toList
  names.forM (tell settings)

end WheelInstaller.Utility.Particulars
