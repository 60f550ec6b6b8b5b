import WheelInstaller.Text.Encoding

/-! How programs write names in their messages, so that nobody takes one for something else. -/

namespace WheelInstaller.Utility

def octal (c : Char) : Raw :=
  let digit (value : Nat) : Char := Char.ofNat ('0'.toNat + value % 8)
  [digit (c.toNat / 64), digit (c.toNat / 8), digit c.toNat]

def isPrintable (c : Char) : Bool :=
  ' ' ≤ c && c ≤ '~'

/-- A byte that is not shown as it is, after a backslash. -/
def escaped (c : Char) : Raw :=
  match c with
  | '\x07' => ['a']
  | '\x08' => ['b']
  | '\x0c' => ['f']
  | '\n' => ['n']
  | '\r' => ['r']
  | '\t' => ['t']
  | '\x0b' => ['v']
  | c => octal c

/-- A text between single quotes, with backslashes where needed. -/
def quoteWord (text : Raw) : Raw :=
  let inner := text.flatMap fun c =>
    if c = '\x27' || c = '\\' then ['\\', c]
    else if isPrintable c then [c]
    else '\\' :: escaped c
  '\x27' :: inner ++ ['\x27']

/-- Characters that mean the same in both kinds of quotes. -/
def meansItself (c : Char) : Bool :=
  c.isAlphanum || "%+,-./:]_ '".toList.contains c

/-- What the shell needs to be told of a text, so that the text is one word to it. Bytes that are not
shown go into quotes of their own. -/
def shellForm (text : Raw) : Raw :=
  if text.contains '\x27' && text.all meansItself then '"' :: text ++ ['"']
  else
    let (inner, _) := text.foldl (fun (written, special) c =>
      if c = '\x27' then (("'\\''".toList.reverse) ++ written, false)
      else if isPrintable c then
        (c :: (if special then "''".toList ++ written else written), false)
      else
        let start := if special then written else "'$'".toList.reverse ++ written
        ((escaped c).reverse ++ '\\' :: start, true)) (([] : Raw), false)
    '\x27' :: inner.reverse ++ ['\x27']

/-- The shell takes a text for one word as it is. -/
def isPlainWord (text : Raw) : Bool :=
  let special (place : Nat) (c : Char) : Bool :=
    " !\"$&'()*:;<=>?[\\^|".toList.contains c || c = '\x60' || !isPrintable c ||
      (place = 0 && (c = '#' || c = '~')) ||
      (text.length = 1 && (c = '\x7b' || c = '\x7d'))
  !text.isEmpty && !(text.zipIdx.any fun (c, place) => special place c)

def quoteName (name : Raw) : Raw :=
  shellForm name

/-- A name, between quotes if it needs any. -/
def showName (name : Raw) : Raw :=
  if isPlainWord name then name else shellForm name

end WheelInstaller.Utility

/-! Numbers as programs read them from their arguments. -/

namespace WheelInstaller.Utility

inductive NumberFault where
  | invalid
  | tooLarge
deriving DecidableEq, Repr

def largest : Nat := 0xffffffffffffffff

/-- What the letter after a number multiplies it by, as a base and an exponent. -/
def multiplier? (c : Char) (isDecimal : Bool) : Option Nat :=
  let power (exponent : Nat) : Nat := Nat.pow (if isDecimal then 1000 else 1024) exponent
  match c with
  | 'b' => some 512
  | 'k' | 'K' => some (power 1)
  | 'm' | 'M' => some (power 2)
  | 'G' => some (power 3)
  | 'T' => some (power 4)
  | 'P' => some (power 5)
  | 'E' => some (power 6)
  | 'Z' => some (power 7)
  | 'Y' => some (power 8)
  | 'R' => some (power 9)
  | 'Q' => some (power 10)
  | _ => none

/-- The number that a text is, with one of the given letters after it for its unit; these letters may
be followed by B for powers of a thousand, or iB. -/
def parseSize (units : String) (text : Raw) : Except NumberFault Nat :=
  let text := text.dropWhile Raw.isSpace
  let digits := match text with
    | '+' :: rest => rest
    | text => text
  let run := digits.takeWhile Char.isDigit
  let value := Raw.digitsValue run
  let bounded (value : Nat) : Except NumberFault Nat :=
    if largest < value then .error .tooLarge else .ok value
  let isUnit (c : Char) : Bool := units.toList.contains c
  match run, digits.drop run.length with
  | [], [c] =>
    if text = digits && isUnit c then (multiplier? c false).elim (.error .invalid) bounded
    else .error .invalid
  | [], _ => .error .invalid
  | _, [] => bounded value
  | _, c :: rest =>
    let isScaled := units.toList.contains '0' && c ≠ 'b'
    let factor := match rest with
      | [] => multiplier? c false
      | ['B'] => if isScaled then multiplier? c true else none
      | ['i', 'B'] => if isScaled then multiplier? c false else none
      | _ => none
    match factor with
    | some factor => if isUnit c then bounded (value * factor) else .error .invalid
    | none => .error .invalid

def numberComplaint (what : String) (text : Raw) : NumberFault → Raw
  | .invalid => what.toList ++ ": ".toList ++ quoteWord text
  | .tooLarge =>
    what.toList ++ ": ".toList ++ quoteWord text ++
      ": Value too large for defined data type".toList

end WheelInstaller.Utility
