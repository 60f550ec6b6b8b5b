import WheelInstaller.Text.Encoding

/-! Orders of texts: by the numbers, months or versions that they are. -/

namespace WheelInstaller.Utility.Order

/-- Blanks at the start of texts that are numbers. -/
def isBlank (c : Char) : Bool :=
  c = ' ' || c = '\t' || c = '\n'

/-- A decimal number as it is written: its sign, and its digits before and after the point without
zeros that change nothing. -/
structure Decimal where
  isNegative : Bool
  whole : Raw
  fraction : Raw
deriving DecidableEq, Repr

namespace Decimal

def read (text : Raw) : Decimal :=
  let text := text.dropWhile isBlank
  let (isNegative, text) := match text with
    | '-' :: rest => (true, rest)
    | text => (false, text)
  let whole := text.takeWhile Char.isDigit
  let fraction := match text.drop whole.length with
    | '.' :: rest => rest.takeWhile Char.isDigit
    | _ => []
  { isNegative, whole := whole.dropWhile (· = '0'), fraction := Raw.dropEndWhile (· = '0') fraction }

def isZero (number : Decimal) : Bool :=
  number.whole.isEmpty && number.fraction.isEmpty

/-- The order of two numbers without their signs. -/
def compareSizes (first second : Decimal) : Ordering :=
  (compare first.whole.length second.whole.length).then
    ((Raw.order first.whole second.whole).then (Raw.order first.fraction second.fraction))

/-- The order of two numbers. -/
def order (first second : Decimal) : Ordering :=
  match first.isNegative && !first.isZero, second.isNegative && !second.isZero with
  | true, false => .lt
  | false, true => .gt
  | false, false => compareSizes first second
  | true, true => compareSizes second first

end Decimal

/-- The order of texts by the numbers at their start. -/
def numeric (first second : Raw) : Ordering :=
  (Decimal.read first).order (Decimal.read second)

/-- The rank of the unit after a number. Units of negative numbers count downwards. -/
def unitRank (text : Raw) : Int :=
  let text := text.dropWhile isBlank
  let (isNegative, text) := match text with
    | '-' :: rest => (true, rest)
    | text => (false, text)
  let number := Decimal.read text
  let whole := text.takeWhile Char.isDigit
  let rest := match text.drop whole.length with
    | '.' :: rest => rest.dropWhile Char.isDigit
    | rest => rest
  let units := "KMGTPEZYRQ".toList
  let unit := match rest with
    | 'k' :: _ => 'K'
    | c :: _ => c
    | [] => ' '
  let rank : Int := if number.isZero then 0 else match units.idxOf? unit with
    | some place => place + 1
    | none => 0
  if isNegative then -rank else rank

def human (first second : Raw) : Ordering :=
  (compare (unitRank first) (unitRank second)).then (numeric first second)

def months : List String :=
  ["JAN", "FEB", "MAR", "APR", "MAY", "JUN", "JUL", "AUG", "SEP", "OCT", "NOV", "DEC"]

/-- The number of the month at the start of a text; zero stands for none. -/
def monthNumber (text : Raw) : Nat :=
  let start := ((text.dropWhile isBlank).take 3).map Char.toUpper
  match months.findIdx? (·.toList = start) with
  | some place => place + 1
  | none => 0

def month (first second : Raw) : Ordering :=
  compare (monthNumber first) (monthNumber second)

/-- A number with a fraction as it counts in the general order: no number at all comes first, then what
is not a number, then all numbers. -/
inductive General where
  | nothing
  | notNumber
  | negativeInfinity
  /-- A mantissa times a power of ten. -/
  | finite (mantissa : Int) (exponent : Int)
  | infinity

def General.rank : General → Nat
  | .nothing => 0
  | .notNumber => 1
  | .negativeInfinity => 2
  | .finite _ _ => 3
  | .infinity => 4

/-- The number at the start of a text, with an exponent. -/
def General.read (text : Raw) : General :=
  let text := text.dropWhile Raw.isSpace
  let (isNegative, text) := match text with
    | '-' :: rest => (true, rest)
    | '+' :: rest => (false, rest)
    | text => (false, text)
  let lower := (text.take 3).map Char.toLower
  if lower = "inf".toList then if isNegative then .negativeInfinity else .infinity
  else if lower = "nan".toList then .notNumber
  else
    let whole := text.takeWhile Char.isDigit
    let rest := text.drop whole.length
    let (fraction, rest) := match rest with
      | '.' :: rest => (rest.takeWhile Char.isDigit, rest.dropWhile Char.isDigit)
      | rest => ([], rest)
    if whole.isEmpty && fraction.isEmpty then .nothing
    else
      let exponent : Int := match rest with
        | c :: rest =>
          if c = 'e' || c = 'E' then
            let (down, digits) := match rest with
              | '-' :: digits => (true, digits)
              | '+' :: digits => (false, digits)
              | digits => (false, digits)
            let value : Int := min (Raw.digitsValue (digits.takeWhile Char.isDigit)) 9999
            if down then -value else value
          else 0
        | [] => 0
      let mantissa : Int := Raw.digitsValue (whole ++ fraction)
      .finite (if isNegative then -mantissa else mantissa) (exponent - fraction.length)

def General.order (first second : General) : Ordering :=
  match first, second with
  | .finite mantissa exponent, .finite otherMantissa otherExponent =>
    let least := min exponent otherExponent
    let scaled (mantissa exponent : Int) : Int :=
      mantissa * Nat.pow 10 (exponent - least).toNat
    compare (scaled mantissa exponent) (scaled otherMantissa otherExponent)
  | first, second => compare first.rank second.rank

/-- The order of texts by numbers with exponents. -/
def general (first second : Raw) : Ordering :=
  (General.read first).order (General.read second)

/-- The weight of a character between the numbers of a version. -/
def versionWeight (c : Char) : Int :=
  if c.isDigit then 0
  else if c.isAlpha then c.toNat
  else if c = '~' then -1
  else c.toNat + 256

/-- The order of the parts of versions between numbers. -/
def versionParts : (fuel : Nat) → Raw → Raw → Ordering
  | 0, _, _ => .eq
  | fuel + 1, first, second =>
    let weight (text : Raw) : Int :=
      match text with
      | c :: _ => if c.isDigit then 0 else versionWeight c
      | [] => 0
    let atNumber (text : Raw) : Bool := text.head?.all Char.isDigit
    if first.isEmpty && second.isEmpty then .eq
    else if !(atNumber first && atNumber second) then
      (compare (weight first) (weight second)).then
        (versionParts fuel (first.drop 1) (second.drop 1))
    else
      let strip (text : Raw) : Raw := text.dropWhile (· = '0')
      let one := (strip first).takeWhile Char.isDigit
      let other := (strip second).takeWhile Char.isDigit
      (compare one.length other.length).then <| (Raw.order one other).then <|
        versionParts fuel ((strip first).drop one.length) ((strip second).drop other.length)

/-- The text without endings like `.tar.gz`. -/
def withoutEndings (text : Raw) : Raw :=
  let isEnding (part : Raw) : Bool :=
    part.head?.any (fun c => c.isAlpha || c = '~') &&
      part.all fun c => c.isAlphanum || c = '~'
  let parts := Raw.split '.' text
  let endings := (parts.drop 1).reverse.takeWhile isEnding
  let kept := parts.take (parts.length - endings.length)
  Raw.join ['.'] kept

def version (first second : Raw) : Ordering :=
  let special (text : Raw) : Nat :=
    if text.isEmpty then 0
    else if text = ['.'] then 1
    else if text = ['.', '.'] then 2
    else if text.head? = some '.' then 3
    else 4
  (compare (special first) (special second)).then <|
    let fuel := first.length + second.length + 1
    (versionParts fuel (withoutEndings first) (withoutEndings second)).then
      (versionParts fuel first second)

end WheelInstaller.Utility.Order

/-! Texts side by side: in as many columns as a line has room for, each as wide as it needs to be. -/

namespace WheelInstaller.Utility.Arrangement

/-- A text, and how wide it is when it is shown. -/
structure Cell where
  text : Raw
  width : Nat

structure Layout where
  /-- How long a line may become; zero stands for any length. -/
  line : Nat := 80
  /-- The distance of tabs; zero stands for none. -/
  tab : Nat := 8

def leastWidth : Nat := 3

def gap : Nat := 2

/-- The column that a cell is in, of so many cells in so many columns. -/
def columnOf (byColumns : Bool) (count columns place : Nat) : Nat :=
  if byColumns then place / ((count + columns - 1) / columns) else place % columns

def widths (byColumns : Bool) (cells : List Cell) (columns : Nat) : List Nat :=
  let start := List.replicate columns leastWidth
  cells.zipIdx.foldl (fun widths (cell, place) =>
    let column := columnOf byColumns cells.length columns place
    let width := cell.width + (if column + 1 = columns then 0 else gap)
    widths.modify column (max width)) start

/-- The largest number of columns that fit on a line, of at most so many, and their widths. -/
def fit (byColumns : Bool) (line : Nat) (cells : List Cell) : (columns : Nat) → Nat × List Nat
  | 0 => (1, [0])
  | 1 => (1, [0])
  | columns + 2 =>
    let widths := widths byColumns cells (columns + 2)
    if widths.foldl (· + ·) 0 < line then (columns + 2, widths)
    else fit byColumns line cells (columns + 1)

/-- Blanks from one position to another, as tabs where these lead as far. -/
def indent (tab : Nat) : (count start stop : Nat) → Raw
  | 0, _, _ => []
  | count + 1, start, stop =>
    if stop ≤ start then []
    else if tab ≠ 0 && (start + 1) / tab < stop / tab then
      '\t' :: indent tab count (start + (tab - start % tab)) stop
    else ' ' :: indent tab count (start + 1) stop

/-- One line of cells with the widths of their columns, from a position on. -/
def lineOf (tab : Nat) (position : Nat) : List (Cell × Nat) → Raw
  | [] => ['\n']
  | [(cell, _)] => cell.text ++ ['\n']
  | (cell, width) :: rest =>
    cell.text ++ indent tab width (position + cell.width) (position + width) ++
      lineOf tab (position + width) rest

def inColumns (layout : Layout) (byColumns : Bool) (cells : List Cell) : Raw :=
  let most := min cells.length ((layout.line + leastWidth - 1) / leastWidth)
  let (columns, widths) := fit byColumns layout.line cells most
  let rows := (cells.length + columns - 1) / columns
  let row (number : Nat) : List (Cell × Nat) :=
    let isHere (place : Nat) : Bool :=
      if byColumns then place % rows = number else place / columns = number
    ((cells.zipIdx.filter fun (_, place) => isHere place).map (·.1)).zip widths
  (List.range rows).flatMap fun number => lineOf layout.tab 0 (row number)

/-- The cells after each other with a separator between them, on as many lines as that takes. -/
def joined (layout : Layout) (separator : Raw) (cells : List Cell) : Raw :=
  let (text, _) := cells.foldl (fun (written, position) cell =>
    if written.isEmpty then (cell.text.reverse, some cell.width)
    else
      let fits := layout.line = 0 || position.getD 0 + cell.width + gap < layout.line
      let between := separator ++ [if fits then ' ' else '\n']
      let start := if fits then position.getD 0 + gap else 0
      (cell.text.reverse ++ between.reverse ++ written, some (start + cell.width)))
    (([] : Raw), (none : Option Nat))
  if cells.isEmpty then [] else text.reverse ++ ['\n']

end WheelInstaller.Utility.Arrangement
